import InstallAudit.Proofs.Oversight
import InstallAudit.Proofs.Platforms
import InstallAudit.Proofs.Stacking

/-!
# The two scopes of a library suffix

A configuration names a suffix and says where it is removed: below a library directory, or anywhere.
The scope is asked about the path as it is in the middle of a pass, after renaming and detaching.  What
decides is the path that was given all the same.  A pass never makes a library directory out of anything
else, and a suffix without `/` leaves all directories in place, so each pass finds the path on the side
of the scope where the pass before it found it.

* `Path.InLibrary` — whether one of the directories of a path is a library directory.
* `Normalizer.normalize_congr` — normalizers that agree wherever their passes lead give the same
  normal forms.
* `pass_of_not_inLibrary`, `pass_of_inLibrary` — what the narrow scope does in one pass.
* `not_inLibrary_pass`, `inLibrary_pass` — on which side of the scope a pass leaves a path.
* `normalize_eq_generic_iff` — the paths of which only library directories are renamed.
* **`scope_splits`** — the narrow scope is no suffix at all on one side, and the wide scope on the other.
-/

namespace InstallAudit

open scoped List

open InstallAudit.Path

/-- One of the directories of a path is the library directory, by either of its names.  The name of the
path itself does not count. -/
def Path.InLibrary (p : Path) : Prop :=
  ∃ d ∈ p.dirs, d = "lib".toList ∨ d = "lib64".toList

instance (p : Path) : Decidable p.InLibrary :=
  inferInstanceAs (Decidable (∃ d ∈ p.dirs, _ ∨ _))

/-! ## Two normalizers in step -/

/-- If the passes of two normalizers agree on the paths with some property, and keep the property, then
the two normalizers agree on these paths. -/
lemma Normalizer.normalize_congr {n n' : Normalizer} {P : Path → Prop}
    (agree : ∀ q, P q → n.pass q = n'.pass q) (keep : ∀ q, P q → P (n.pass q)) {p : Path}
    (hp : P p) : n.normalize p = n'.normalize p := by
  rw [normalize_eq_iterate, normalize_eq_iterate]
  generalize passLimit = k
  induction k generalizing p with
  | zero => rfl
  | succ k ih =>
      rw [Function.iterate_succ_apply, Function.iterate_succ_apply, ← agree p hp]
      exact ih (keep p hp)

namespace NormalizeOptions

/-- A pass depends on a configuration only in what is taken off in front of a shared suffix. -/
lemma pass_congr {o o' : NormalizeOptions} {p : Path}
    (h : ∀ q : Path, q.dirs = p.dirs.map genericDir → o.bare q = o'.bare q) :
    o.normalizer.pass p = o'.normalizer.pass p := by
  rw [pass_eq, pass_eq, peel?, peel?]
  cases hq : p.generic.detached? sharedSuffixes with
  | none => rfl
  | some q =>
      obtain ⟨a, ha, hp, -⟩ := exists_of_detached? hq
      have hdirs : q.dirs = p.dirs.map genericDir := by
        rw [← dirs_generic, hp, dirs_append q (slash_not_mem_sharedSuffix a ha)]
      simp [h q hdirs]

/-! ## Inside and outside of the library directories -/

lemma inLibrary_iff_lib_mem {p : Path} : p.InLibrary ↔ "lib".toList ∈ p.generic.dirs := by
  rw [dirs_generic, List.mem_map]
  simp only [InLibrary, genericDir_eq_lib_iff]

section

variable {s : Text} {p q : Path}

lemma covers_libraryDir (h : q.dirs = p.dirs.map genericDir) :
    SuffixScope.libraryDir.covers q = true ↔ p.InLibrary := by
  rw [covers_iff_inScope (o := ⟨none, .libraryDir⟩) h, InScope, InLibrary]
  simp

/-- Outside of the library directories the narrow scope takes nothing off. -/
lemma pass_of_not_inLibrary (scope : SuffixScope) (hp : ¬p.InLibrary) :
    (normalizer ⟨some s, .libraryDir⟩).pass p = (normalizer ⟨none, scope⟩).pass p := by
  refine pass_congr fun q hq => ?_
  have hcovers : SuffixScope.libraryDir.covers q = false := by
    rw [Bool.eq_false_iff]
    intro h
    exact hp ((covers_libraryDir hq).1 h)
  rw [bare_of_not_covers hcovers]
  rfl

/-- Inside of them it takes off what the wide scope does. -/
lemma pass_of_inLibrary (hp : p.InLibrary) :
    (normalizer ⟨some s, .libraryDir⟩).pass p = (normalizer ⟨some s, .anywhere⟩).pass p := by
  refine pass_congr fun q hq => ?_
  rw [bare_of_covers rfl ((covers_libraryDir hq).2 hp), bare_of_covers rfl rfl]

end

/-- No pass leads into a library directory: what is left of the directories are the first ones. -/
lemma not_inLibrary_pass (o : NormalizeOptions) {p : Path} (hp : ¬p.InLibrary) :
    ¬(o.normalizer.pass p).InLibrary := by
  rintro ⟨d, hd, hlib⟩
  have hmem : d ∈ p.generic.dirs := (o.dirs_pass_prefix p).subset hd
  rcases hlib with rfl | rfl
  · exact hp (inLibrary_iff_lib_mem.2 hmem)
  · exact p.lib64_not_mem_dirs_generic hmem

/-- If the suffix of the configuration is flat, no pass leads out of one. -/
lemma inLibrary_pass {o : NormalizeOptions} (flat : o.FlatSuffix) {p : Path} (hp : p.InLibrary) :
    (o.normalizer.pass p).InLibrary := by
  have hlength : (o.normalizer.pass p).dirs.length = p.generic.dirs.length := by
    rw [length_dirs_pass flat, dirs_generic, List.length_map]
  have hdirs := (o.dirs_pass_prefix p).eq_of_length hlength
  refine ⟨"lib".toList, ?_, Or.inl rfl⟩
  rw [hdirs]
  exact inLibrary_iff_lib_mem.1 hp

/-! ## Paths without a shared suffix -/

/-- **Nothing but renaming.**  All that happens to a path is the renaming of library directories exactly
when its name carries no shared suffix, whatever the configuration says. -/
lemma normalize_eq_generic_iff (o : NormalizeOptions) (p : Path) :
    o.normalizer.normalize p = p.generic ↔ ∀ a ∈ sharedSuffixes, ¬p.Carries a := by
  have hnormal : o.normalizer.normalize p = p.generic ↔ p.generic.IsNormal := by
    rw [← normalize_generic, normalize_eq_self_iff]
  rw [hnormal]
  constructor
  · rintro ⟨-, hbare⟩ a ha ⟨stem, hstem, hname⟩
    -- a name that ends in a shared suffix is no `lib64`, so it is still there
    refine hstem (hbare a ha stem ?_)
    rw [name_generic, genericDir, if_neg, hname]
    intro hlib
    exact not_suffix_lib64 a ha ⟨stem, by rw [← hname, hlib]⟩
  · intro h
    have hnone : o.peel? p = none := by
      refine peel?_eq_none.2 fun a ha stem hname => ?_
      by_contra hstem
      exact h a ha ⟨stem, hstem, hname⟩
    exact isNormal_generic_of_peel? hnone

end NormalizeOptions

/-! ## The scopes compared -/

/-- **The narrow scope splits the paths in two.**  Outside of the library directories it is as if there
were no suffix, and inside of them it is as if the scope were the wide one, if the suffix is flat.  On
paths without a shared suffix, and on these alone, every configuration does the same: it renames
segments. -/
theorem scope_splits (s : Text) (p : Path) :
    let normal (suffix : Option Text) (scope : SuffixScope) :=
      NormalizeOptions.normalizer ⟨suffix, scope⟩ |>.normalize p
    (¬p.InLibrary → ∀ scope, normal (some s) .libraryDir = normal none scope)
      ∧ ('/' ∉ s → p.InLibrary → normal (some s) .libraryDir = normal (some s) .anywhere)
      ∧ (∀ suffix scope, normal suffix scope = p.generic ↔ ∀ a ∈ sharedSuffixes, ¬p.Carries a)
      ∧ p.generic.segments
        = p.segments.map fun d => if d = "lib64".toList then "lib".toList else d := by
  intro normal
  refine ⟨fun hp scope => ?_, fun free hp => ?_, fun suffix scope => ?_, p.segments_generic⟩
  · exact Normalizer.normalize_congr (P := fun q => ¬q.InLibrary)
      (fun q hq => NormalizeOptions.pass_of_not_inLibrary scope hq)
      (fun q hq => NormalizeOptions.not_inLibrary_pass _ hq) hp
  · have flat : NormalizeOptions.FlatSuffix ⟨some s, .libraryDir⟩ := by
      rintro t ⟨⟩
      exact free
    exact Normalizer.normalize_congr (P := InLibrary)
      (fun q hq => NormalizeOptions.pass_of_inLibrary hq)
      (fun q hq => NormalizeOptions.inLibrary_pass flat hq) hp
  · exact NormalizeOptions.normalize_eq_generic_iff ⟨suffix, scope⟩ p

/-- A tool and a library that are themselves called like the library directory.  With the narrow scope the
tool keeps the suffix of a debug build, and the library loses it. -/
theorem scope_splits_lib64 :
    let normal (suffix : Option Text) (scope : SuffixScope) :=
      NormalizeOptions.normalizer ⟨suffix, scope⟩ |>.normalize
    let d := "_d".toList
    let tool : Path := "bin/lib64.so_d.so".toList
    let library : Path := "lib64/lib64_d.so_d.so".toList
    let archive : Path := "lib64/z_d.a".toList
    (¬tool.InLibrary ∧ normal (some d) .libraryDir tool = normal none .anywhere tool
        ∧ normal none .anywhere tool = "bin/lib64.so_d".toList
        ∧ normal (some d) .anywhere tool = "bin/lib".toList)
      ∧ ('/' ∉ d ∧ library.InLibrary
        ∧ normal (some d) .libraryDir library = normal (some d) .anywhere library
        ∧ normal (some d) .anywhere library = "lib/lib".toList)
      ∧ (∀ a ∈ sharedSuffixes, ¬archive.Carries a)
        ∧ normal (some d) .libraryDir archive = archive.generic
        ∧ normal none .anywhere archive = archive.generic := by
  intro normal d tool library archive
  have houtside : ¬tool.InLibrary := by decide
  have hinside : library.InLibrary := by decide
  have hbare : ∀ a ∈ sharedSuffixes, ¬archive.Carries a := by decide
  refine ⟨⟨houtside, (scope_splits d tool).1 houtside .anywhere, by decide, by decide⟩,
    ⟨by decide, hinside, (scope_splits d library).2.1 (by decide) hinside, by decide⟩, hbare, ?_, ?_⟩
  · exact ((scope_splits d archive).2.2.1 _ _).2 hbare
  · exact ((scope_splits d archive).2.2.1 _ _).2 hbare

end InstallAudit
