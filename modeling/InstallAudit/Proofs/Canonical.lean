import InstallAudit.Proofs.Checking
import InstallAudit.Proofs.ClosedForm
import InstallAudit.Proofs.Reading

/-!
# Canonical paths

Whatever is read from a listing is a canonical relative path: there is something in it, it holds neither a
line feed nor a `\`, and none of its segments is empty or a single dot.  Normalization cuts names short
and looks out for names of which nothing would be left.  It does not look out for the name `.`, so it
keeps paths canonical unless a name is cut down to that.

* `Path.IsCanonical` — canonical relative paths; `isCanonical_of_mem_load`, those of a listing are.
* `isCanonical_iff` — an entry is canonical unless its name is `.`.
* `NormalizeOptions.LeavesDot`, `name_normalize_eq_dot_iff` — the paths whose names are cut down to `.`.
* **`entries_canonical_iff`** — when all entries of a normalized file are canonical.
* `entry_named_dot` — a file whose entry is not.
-/

namespace InstallAudit

open scoped List

open InstallAudit.Path

/-- A canonical relative path. -/
structure Path.IsCanonical (p : Path) : Prop where
  ne_nil : p ≠ []
  newline : '\n' ∉ p
  backslash : '\\' ∉ p
  segments : ∀ s ∈ p.segments, s ≠ [] ∧ s ≠ ['.']

/-- An entry is canonical unless its name is a single dot. -/
lemma Path.isCanonical_iff {p : Path} : p.IsCanonical ↔ p.IsEntry ∧ p.name ≠ ['.'] := by
  constructor
  · rintro ⟨-, newline, backslash, hclean⟩
    obtain ⟨htidy, hname⟩ := isClean_iff.1 hclean
    exact ⟨⟨htidy, newline, backslash⟩, hname⟩
  · rintro ⟨hentry, hname⟩
    exact ⟨hentry.ne_nil, hentry.newline, hentry.backslash, isClean_iff.2 ⟨hentry.toIsTidy, hname⟩⟩

/-- The paths of a listing are canonical. -/
lemma LoadOptions.isCanonical_of_mem_load {o : LoadOptions} {listing : Text} {p : Path}
    (h : p ∈ o.load listing) : p.IsCanonical := by
  obtain ⟨line, hline, hp⟩ := mem_load_iff_path?.1 h
  have newline : '\n' ∉ line := Text.not_mem_of_mem_splitOn hline
  exact ⟨(path?_eq_some.1 hp).2.1, newline_not_mem_of_path? newline hp,
    backslash_not_mem_of_path? hp, isClean_of_path? hp⟩

/-! ## Names that are cut down to a dot -/

namespace NormalizeOptions

/-- What is left of a path below some stacked suffixes, as many as the limit on passes allows, is called
`.`. -/
def LeavesDot (o : NormalizeOptions) (p : Path) : Prop :=
  ∃ k ≤ Normalizer.passLimit, ∃ rest, o.peeled k p.generic = some rest ∧ rest.name = ['.']

lemma not_suffix_dot : ∀ a ∈ sharedSuffixes, ¬ a <:+ ['.'] := by decide

lemma genericDir_eq_dot_iff {d : Text} : genericDir d = ['.'] ↔ d = ['.'] := by
  constructor
  · intro h
    by_contra hd
    exact genericDir_ne (by decide) hd h
  · rintro rfl
    rfl

/-- Passes lead to the name `.` when they leave it below the suffixes that they take off.  Nothing can be
taken off a dot, so it does not matter how many passes there still are. -/
lemma name_normalize_eq_dot_iff (o : NormalizeOptions) (p : Path) :
    (o.normalizer.normalize p).name = ['.'] ↔ o.LeavesDot p := by
  refine normalize_iff_exists_peeled (P := fun q => q.name = ['.']) ?_ ?_ p
  · intro q hname
    refine peel?_eq_none.2 fun a ha stem hstem => ?_
    rw [hname] at hstem
    exact absurd ⟨stem, hstem.symm⟩ (not_suffix_dot a ha)
  · intro q
    rw [name_generic, genericDir_eq_dot_iff]

/-- If the suffix of the configuration is flat, those are the paths whose name is a dot and blocks. -/
lemma leavesDot_iff_division {o : NormalizeOptions} (flat : o.FlatSuffix) (p : Path) :
    o.LeavesDot p ↔ ∃ blocks, Division o p ['.'] blocks := by
  rw [← name_normalize_eq_dot_iff,
    name_normalize_iff_division flat (P := fun d => d = ['.']) fun d => genericDir_eq_dot_iff]
  constructor
  · rintro ⟨_, blocks, hdivision, rfl⟩
    exact ⟨blocks, hdivision⟩
  · rintro ⟨blocks, hdivision⟩
    exact ⟨_, blocks, hdivision, rfl⟩

end NormalizeOptions

/-! ## Files -/

section

variable {c : Config} {listing : Text}

lemma Config.isCanonical_iff_name {x : Path} (h : x ∈ c.manifest listing) :
    x.IsCanonical ↔ x.name ≠ ['.'] := by
  rw [isCanonical_iff]
  exact and_iff_right (isEntry_of_mem_manifest h)

/-- The manifest of a listing has canonical entries exactly if no path of the listing leaves a dot. -/
lemma Config.forall_isCanonical_iff :
    (∀ x ∈ c.manifest listing, x.IsCanonical)
      ↔ ∀ p ∈ c.load.load listing, ¬c.normalize.LeavesDot p := by
  constructor
  · intro h p hp hdot
    have hmem : c.normalize.normalizer.normalize p ∈ c.manifest listing :=
      Normalizer.mem_apply.2 ⟨p, hp, rfl⟩
    exact (isCanonical_iff_name hmem).1 (h _ hmem) ((c.normalize.name_normalize_eq_dot_iff p).2 hdot)
  · intro h x hx
    obtain ⟨p, hp, rfl⟩ := Normalizer.mem_apply.1 hx
    refine (isCanonical_iff_name hx).2 fun hname => ?_
    exact h p hp ((c.normalize.name_normalize_eq_dot_iff p).1 hname)

end

/-- **When the entries of a file are canonical.**  They always have directories that are neither empty nor
a dot, a name, and neither a line feed nor a `\`, so what can go wrong is that the name is a dot.  All
entries are canonical exactly when none of the loaded paths, which are canonical themselves, is cut down
to that; and this is to say that the name of none of them is a dot and blocks, if the suffix of the
configuration is flat. -/
theorem entries_canonical_iff {read : FileReader} {c : Config} {file : Path} {m : Manifest}
    (h : (loadNormalized read c file).result = .ok m) :
    (∀ x ∈ m, x.IsEntry ∧ (x.IsCanonical ↔ x.name ≠ ['.']))
      ∧ ∃ raw, (loadFile read c.load file).result = .ok raw ∧ (∀ p ∈ raw, p.IsCanonical)
        ∧ ((∀ x ∈ m, x.IsCanonical) ↔ ∀ p ∈ raw, ¬c.normalize.LeavesDot p)
        ∧ (c.normalize.FlatSuffix →
            ∀ p, c.normalize.LeavesDot p ↔ ∃ blocks, c.normalize.Division p ['.'] blocks) := by
  rw [result_loadNormalized] at h
  rw [result_loadFile]
  cases hlisting : readListing read file with
  | error e =>
      rw [hlisting] at h
      cases h
  | ok listing =>
      rw [hlisting, map_ok, Except.ok.injEq] at h
      subst h
      refine ⟨fun x hx => ⟨Config.isEntry_of_mem_manifest hx, Config.isCanonical_iff_name hx⟩,
        c.load.load listing, rfl, ?_, Config.forall_isCanonical_iff, ?_⟩
      · exact fun p hp => LoadOptions.isCanonical_of_mem_load hp
      · exact NormalizeOptions.leavesDot_iff_division

/-- Hidden files keep their names, or lose a shared suffix, or one of a debug build as well. -/
theorem entries_canonical_iff_hidden :
    let c : Config := { normalize := { librarySuffix := some "_d".toList } }
    let files : FileTree :=
      ⟨[(["m".toList], .file (Text.encode "./lib64/.so\nlib\\.z_d.dll\n.git//x.so\n".toList))]⟩
    let m : Manifest := .ofList [".git/x".toList, "lib/.so".toList, "lib/.z".toList]
    (loadNormalized files.read c "m".toList).result = .ok m ∧ ∀ x ∈ m, x.IsCanonical := by
  intro c files m
  have hm : (loadNormalized files.read c "m".toList).result = .ok m := by decide +kernel
  have hnames : ∀ x ∈ m.toList, x.name ≠ ['.'] := by decide
  exact ⟨hm, fun x hx => ((entries_canonical_iff hm).1 x hx).2.2 (hnames x hx)⟩

/-- A file `..so` in a library directory becomes the directory with a dot behind it, which is read as the
directory itself. -/
theorem entry_named_dot :
    let files : FileTree := ⟨[(["m".toList], .file (Text.encode "lib/..so\n".toList))]⟩
    let m : Manifest := .ofList ["lib/.".toList]
    (loadNormalized files.read {} "m".toList).result = .ok m ∧ ¬(∀ x ∈ m, x.IsCanonical)
      ∧ ({} : LoadOptions).load m.text = .ofList ["lib".toList] := by
  intro files m
  refine ⟨by decide +kernel, fun h => ?_, by decide⟩
  have hdot := h "lib/.".toList (by decide)
  exact (hdot.segments ['.'] (by decide)).2 rfl

end InstallAudit
