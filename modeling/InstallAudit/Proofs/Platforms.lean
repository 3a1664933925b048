import Mathlib.Data.List.Forall2
import InstallAudit.Proofs.Manifests
import InstallAudit.Proofs.Passes

/-!
# The same files on different platforms

One package is installed in `lib` here and in `lib64` there, its shared libraries end in `.so`,
`.dylib` or `.dll`, and a debug build puts a suffix of its own in front of that.  Normalization is
there to make such listings agree.

* `SameFile` — the same name in directories that are the same up to `lib64` for `lib`.
* `Variant` — paths under which the same file is installed on two platforms, or in two
  configurations.
* `pass_append`, `pass_eq_of_variant` — the first pass already makes variants equal.
* **`variants_reconcile`** — variants normalize to the same path, and listings that differ in
  variants reconcile.
-/

namespace InstallAudit

open InstallAudit.Path

/-! ## Variants -/

/-- Names of one directory: equal, or one of them `lib64` and the other one `lib`. -/
def SameDir (d e : Text) : Prop :=
  d = e ∨ (d = "lib64".toList ∧ e = "lib".toList) ∨ (d = "lib".toList ∧ e = "lib64".toList)

instance (d e : Text) : Decidable (SameDir d e) :=
  inferInstanceAs (Decidable (_ ∨ _))

/-- Paths with one name in directories that are the same, position by position. -/
structure SameFile (p q : Path) : Prop where
  dirs : List.Forall₂ SameDir p.dirs q.dirs
  name : p.name = q.name

instance (p q : Path) : Decidable (SameFile p q) :=
  decidable_of_iff (List.Forall₂ SameDir p.dirs q.dirs ∧ p.name = q.name)
    ⟨fun h => ⟨h.1, h.2⟩, fun h => ⟨h.dirs, h.name⟩⟩

/-- Whether the suffix of a configuration is removed from libraries that stand where a path
stands. -/
def NormalizeOptions.InScope (o : NormalizeOptions) (p : Path) : Prop :=
  o.scope = .anywhere ∨ ∃ d ∈ p.dirs, d = "lib".toList ∨ d = "lib64".toList

/-- Paths of one file on two platforms or in two configurations. -/
inductive Variant (o : NormalizeOptions) : Path → Path → Prop
  /-- Any file, in directories that are the same. -/
  | moved {p q : Path} (same : SameFile p q) : Variant o p q
  /-- A shared library, with any two of the shared suffixes. -/
  | shared {p q : Path} {a b : Text} (same : SameFile p q) (named : p.name ≠ [])
      (ha : a ∈ sharedSuffixes) (hb : b ∈ sharedSuffixes) : Variant o (p ++ a) (q ++ b)
  /-- A shared library with the suffix of the configuration, and without it. -/
  | suffixed {p q : Path} {s a b : Text} (same : SameFile p q) (named : p.name ≠ [])
      (suffix : o.librarySuffix = some s) (free : '/' ∉ s) (unsuffixed : ¬ s <:+ p.name)
      (scope : o.InScope p) (ha : a ∈ sharedSuffixes) (hb : b ∈ sharedSuffixes) :
      Variant o (p ++ s ++ a) (q ++ b)
  /-- Variants in the other order. -/
  | symm {p q : Path} (h : Variant o p q) : Variant o q p

/-! ## Generic directories -/

/-- The path with the generic name for the library directory among its directories.  The name of the
path stays, even if it is `lib64`. -/
def Path.genericDirs (p : Path) : Path :=
  ofSegments (p.dirs.map genericDir ++ [p.name])

lemma Path.slash_not_mem_map_genericDir (p : Path) : ∀ d ∈ p.dirs.map genericDir, '/' ∉ d := by
  intro s hs
  obtain ⟨d, hd, rfl⟩ := List.mem_map.1 hs
  rw [genericDir]
  split
  · decide
  · exact slash_not_mem_dirs hd

lemma segments_genericDirs (p : Path) :
    p.genericDirs.segments = p.dirs.map genericDir ++ [p.name] :=
  segments_make p.slash_not_mem_map_genericDir p.slash_not_mem_name

lemma name_genericDirs (p : Path) : p.genericDirs.name = p.name :=
  name_of_segments (segments_genericDirs p)

lemma dirs_genericDirs (p : Path) : p.genericDirs.dirs = p.dirs.map genericDir :=
  dirs_of_segments (segments_genericDirs p)

/-- The name is made generic along with the directories, if it has to be. -/
lemma generic_genericDirs (p : Path) : p.genericDirs.generic = p.generic := by
  refine segments_injective ?_
  rw [segments_generic_eq, segments_generic_eq, name_genericDirs, dirs_genericDirs,
    map_genericDir_eq_self (lib64_not_mem_map_genericDir _)]

lemma genericDir_eq_lib_iff {d : Text} :
    genericDir d = "lib".toList ↔ d = "lib".toList ∨ d = "lib64".toList := by
  rw [genericDir]
  split
  · next hd => exact iff_of_true rfl (Or.inr hd)
  · next hd => exact (or_iff_left hd).symm

lemma genericDir_eq {d e : Text} (h : SameDir d e) : genericDir d = genericDir e := by
  rcases h with rfl | ⟨rfl, rfl⟩ | ⟨rfl, rfl⟩ <;> rfl

lemma map_genericDir_eq {ds es : List Text} (h : List.Forall₂ SameDir ds es) :
    ds.map genericDir = es.map genericDir := by
  induction h with
  | nil => rfl
  | cons hde _ ih => rw [List.map_cons, List.map_cons, genericDir_eq hde, ih]

/-- The same file has the same generic directories. -/
lemma genericDirs_eq {p q : Path} (h : SameFile p q) : p.genericDirs = q.genericDirs := by
  rw [genericDirs, genericDirs, map_genericDir_eq h.dirs, h.name]

lemma generic_eq {p q : Path} (h : SameFile p q) : p.generic = q.generic := by
  refine segments_injective ?_
  rw [segments_generic, segments_generic, segments_eq p, segments_eq q, List.map_append,
    List.map_append, map_genericDir_eq h.dirs, h.name]

/-- Behind a path that goes on with a shared suffix, only the directories become generic. -/
lemma generic_append (p : Path) {s a : Text} (ha : a ∈ sharedSuffixes) (free : '/' ∉ s) :
    generic (p ++ s ++ a) = p.genericDirs ++ s ++ a := by
  have free' : '/' ∉ s ++ a := by simp [free, slash_not_mem_sharedSuffix a ha]
  have hname : p.name ++ (s ++ a) ≠ "lib64".toList := fun h =>
    not_suffix_lib64 a ha ⟨p.name ++ s, by rw [List.append_assoc, h]⟩
  refine segments_injective ?_
  rw [segments_generic, List.append_assoc, List.append_assoc, segments_append p free',
    segments_append _ free', List.map_append, List.map_singleton, genericDir, if_neg hname,
    dirs_genericDirs, name_genericDirs]

/-! ## The first pass

Detaching takes whichever shared suffix there is off the generic path; what is left in front of it
is the same on both sides, up to the suffix of the configuration.
-/

namespace NormalizeOptions

lemma pass_append (o : NormalizeOptions) {p : Path} {s a : Text} (named : p.name ≠ [])
    (ha : a ∈ sharedSuffixes) (free : '/' ∉ s) :
    o.normalizer.pass (p ++ s ++ a) = o.bare (p.genericDirs ++ s) := by
  have hname : name (p.genericDirs ++ s) ≠ [] := by
    rw [name_append _ free, name_genericDirs]
    exact List.append_ne_nil_of_left_ne_nil named s
  rw [pass_eq, generic_append p ha free, peel?, detached?_append ha hname]
  rfl

/-- Where a path stands can be told from its generic directories. -/
lemma covers_iff_inScope {o : NormalizeOptions} {p q : Path} (h : q.dirs = p.dirs.map genericDir) :
    o.scope.covers q = true ↔ o.InScope p := by
  rw [InScope]
  cases o.scope with
  | anywhere => exact iff_of_true rfl (Or.inl rfl)
  | libraryDir =>
      rw [SuffixScope.covers, List.contains_iff_mem, h, List.mem_map]
      simp only [genericDir_eq_lib_iff, reduceCtorEq, false_or]

/-- **The first pass makes variants equal.** -/
lemma pass_eq_of_variant {o : NormalizeOptions} {p q : Path} (h : Variant o p q) :
    o.normalizer.pass p = o.normalizer.pass q := by
  induction h with
  | moved same => rw [pass_eq, pass_eq, generic_eq same]
  | @shared p q a b same named ha hb =>
      have hp := o.pass_append named ha (s := []) (by simp)
      have hq := o.pass_append (same.name ▸ named) hb (s := []) (by simp)
      simp only [List.append_nil] at hp hq
      rw [hp, hq, genericDirs_eq same]
  | @suffixed p q s a b same named suffix free unsuffixed scope ha hb =>
      have hq := o.pass_append (same.name ▸ named) hb (s := []) (by simp)
      simp only [List.append_nil] at hq
      have hdirs : dirs (p.genericDirs ++ s) = p.dirs.map genericDir := by
        rw [dirs_append _ free, dirs_genericDirs]
      -- on the other side the suffix must not be taken off once more
      have hkept : ∀ t ∈ o.librarySuffix, o.scope.covers p.genericDirs = true →
          p.genericDirs.withoutSuffix? t = none := by
        rintro t ht -
        obtain rfl : s = t := Option.some.inj (suffix.symm.trans ht)
        rw [withoutSuffix?_eq_none_iff free, name_genericDirs]
        exact fun hs => absurd hs unsuffixed
      rw [o.pass_append named ha free, hq, ← genericDirs_eq same, bare_eq_self hkept]
      exact bare_append suffix ((covers_iff_inScope hdirs).2 scope) (by rwa [name_genericDirs])
  | symm _ ih => exact ih.symm

end NormalizeOptions

/-! ## Listings of two platforms -/

/-- **Variants reconcile.**  Paths of one file on two platforms normalize to the same path, so
listings that differ in such paths alone have the same manifest, and reconciling them finds nothing
missing, nothing extra and nothing to exempt. -/
theorem variants_reconcile (o : NormalizeOptions) (build : BuildOptions) :
    (∀ p q, Variant o p q → o.normalizer.normalize p = o.normalizer.normalize q)
      ∧ ∀ ps qs, List.Forall₂ (Variant o) ps qs →
        o.normalizer.manifestOf ps = o.normalizer.manifestOf qs
          ∧ let r := reconcile (o.normalizer.manifestOf ps) (o.normalizer.manifestOf qs) build
            r.missing = .empty ∧ r.extra = .empty ∧ r.exempted = .empty := by
  have hnormalize : ∀ p q, Variant o p q → o.normalizer.normalize p = o.normalizer.normalize q :=
    fun p q h => Normalizer.normalize_of_pass_eq (NormalizeOptions.pass_eq_of_variant h)
  refine ⟨hnormalize, fun ps qs h => ?_⟩
  have hmap : ps.map o.normalizer.normalize = qs.map o.normalizer.normalize := by
    induction h with
    | nil => rfl
    | cons hpq _ ih => rw [List.map_cons, List.map_cons, hnormalize _ _ hpq, ih]
  have hmanifest : o.normalizer.manifestOf ps = o.normalizer.manifestOf qs := by
    rw [Normalizer.manifestOf, hmap, Normalizer.manifestOf]
  refine ⟨hmanifest, ?_⟩
  rw [hmanifest]
  simp [reconcile]

/-- A debug build in `lib64` against a release build in `lib`. -/
theorem variants_reconcile_debug_build :
    let o : NormalizeOptions := { librarySuffix := some "_d".toList }
    let ps := ["lib64/cmake/foo.cmake".toList, "lib64/libfoo_d.dylib".toList]
    let qs := ["lib/cmake/foo.cmake".toList, "lib/libfoo.so".toList]
    List.Forall₂ (Variant o) ps qs ∧ o.normalizer.manifestOf ps = o.normalizer.manifestOf qs := by
  intro o ps qs
  have hcmake : Variant o "lib64/cmake/foo.cmake".toList "lib/cmake/foo.cmake".toList :=
    .moved (by decide)
  have hfoo : Variant o ("lib64/libfoo".toList ++ "_d".toList ++ ".dylib".toList)
      ("lib/libfoo".toList ++ ".so".toList) :=
    .suffixed (by decide) (by decide) rfl (by decide) (by decide)
      (Or.inr ⟨"lib64".toList, by decide, Or.inr rfl⟩) (by decide) (by decide)
  have h : List.Forall₂ (Variant o) ps qs := .cons hcmake (.cons hfoo .nil)
  exact ⟨h, ((variants_reconcile o {}).2 ps qs h).1⟩

end InstallAudit
