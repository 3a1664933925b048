import Mathlib.Logic.Function.Iterate
import InstallAudit.Proofs.Segments

/-!
# What a pass does

The rules of a configuration are a rename, a detachment and perhaps a removal, in this order.  This
module says once what they do together, and from it what any number of passes can do.

* `settle_eq_iterate` — stopping early does not change what repetition gives.
* `Normalizer.normalize_eq_iterate_pass` — normalization is a first pass and more of them behind it.
* `NormalizeOptions.bare_cases` — the suffix of the configuration is taken off, or the path stays.
* `NormalizeOptions.peel?` — a path without its shared suffix and, in front of that, without the
  suffix of the configuration.
* `pass_eq` — a pass makes the library directory generic and then peels.
* `pass_sublist` — a pass leaves characters out and never puts one in.  This is the measure: a pass
  that changes a path makes it shorter.
* `Path.IsNormal`, `pass_eq_self_iff` — the paths that a pass leaves as they are.
-/

namespace InstallAudit

open scoped List

/-! ## Repetition -/

/-- Stopping as soon as a step changes nothing gives what the full number of steps gives. -/
lemma settle_eq_iterate (step : Path → Path) (n : Nat) (p : Path) :
    settle step n p = step^[n] p := by
  induction n generalizing p with
  | zero => rfl
  | succ n ih =>
      rw [settle]
      split
      · next h => exact (Function.iterate_fixed h (n + 1)).symm
      · rw [ih, Function.iterate_succ_apply]

namespace Normalizer

lemma normalize_eq_iterate (n : Normalizer) (p : Path) : n.normalize p = n.pass^[passLimit] p :=
  settle_eq_iterate n.pass passLimit p

/-- There is a first pass, whatever the limit is otherwise. -/
lemma normalize_eq_iterate_pass (n : Normalizer) (p : Path) :
    n.normalize p = n.pass^[passLimit - 1] (n.pass p) := by
  have hlimit : passLimit - 1 + 1 = passLimit := Nat.sub_one_add_one (by decide)
  rw [normalize_eq_iterate, ← Function.iterate_succ_apply, Nat.succ_eq_add_one, hlimit]

/-- What a path normalizes to depends on its first pass alone. -/
lemma normalize_of_pass_eq {n : Normalizer} {p q : Path} (h : n.pass p = n.pass q) :
    n.normalize p = n.normalize q := by
  rw [normalize_eq_iterate_pass, normalize_eq_iterate_pass, h]

end Normalizer

/-! ## Shared suffixes

The three suffixes end in different letters, so a path ends with at most one of them.
-/

lemma slash_not_mem_sharedSuffix : ∀ a ∈ sharedSuffixes, '/' ∉ a := by decide

lemma dot_mem_sharedSuffix : ∀ a ∈ sharedSuffixes, '.' ∈ a := by decide

lemma sharedSuffix_ne_nil : ∀ a ∈ sharedSuffixes, a ≠ [] := by decide

lemma sharedSuffix_eq_of_getLast? :
    ∀ a ∈ sharedSuffixes, ∀ b ∈ sharedSuffixes, a.getLast? = b.getLast? → a = b := by decide

lemma not_suffix_lib64 : ∀ a ∈ sharedSuffixes, ¬ a <:+ "lib64".toList := by decide

lemma not_suffix_lib : ∀ a ∈ sharedSuffixes, ¬ a <:+ "lib".toList := by decide

/-- A path ends with at most one shared suffix. -/
lemma sharedSuffix_unique {a b q r : Text} (ha : a ∈ sharedSuffixes) (hb : b ∈ sharedSuffixes)
    (h : q ++ a = r ++ b) : a = b ∧ q = r := by
  have hlast : a.getLast? = b.getLast? := by
    rw [← List.getLast?_append_of_ne_nil q (sharedSuffix_ne_nil a ha), h,
      List.getLast?_append_of_ne_nil r (sharedSuffix_ne_nil b hb)]
  have hab := sharedSuffix_eq_of_getLast? a ha b hb hlast
  subst hab
  exact ⟨rfl, List.append_cancel_right h⟩

namespace Path

/-- What is detached is a shared suffix with a name in front of it. -/
lemma exists_of_detached? {p q : Path} (h : p.detached? sharedSuffixes = some q) :
    ∃ a ∈ sharedSuffixes, p = q ++ a ∧ q.name ≠ [] := by
  obtain ⟨a, ha, hq⟩ := List.exists_of_findSome?_eq_some h
  exact ⟨a, ha, withoutSuffix?_eq_some.1 hq⟩

/-- A shared suffix behind a name is detached, whichever it is. -/
lemma detached?_append {q : Path} {a : Text} (ha : a ∈ sharedSuffixes) (hq : q.name ≠ []) :
    detached? (q ++ a) sharedSuffixes = some q := by
  cases h : detached? (q ++ a) sharedSuffixes with
  | none =>
      have hnone := List.findSome?_eq_none_iff.1 h a ha
      rw [withoutSuffix?_append a hq] at hnone
      cases hnone
  | some r =>
      obtain ⟨b, hb, heq, -⟩ := exists_of_detached? h
      rw [(sharedSuffix_unique ha hb heq).2]

/-- Nothing is detached exactly when no shared suffix stands behind a name. -/
lemma detached?_eq_none {p : Path} :
    p.detached? sharedSuffixes = none
      ↔ ∀ a ∈ sharedSuffixes, ∀ stem, p.name = stem ++ a → stem = [] := by
  constructor
  · intro h a ha stem hname
    obtain ⟨q, rfl⟩ := (suffix_iff_suffix_name (slash_not_mem_sharedSuffix a ha)).2
      ⟨stem, hname.symm⟩
    rw [name_append q (slash_not_mem_sharedSuffix a ha)] at hname
    rw [← List.append_cancel_right hname]
    by_contra hq
    rw [detached?_append ha hq] at h
    cases h
  · intro h
    cases hq : p.detached? sharedSuffixes with
    | none => rfl
    | some q =>
        obtain ⟨a, ha, rfl, hne⟩ := exists_of_detached? hq
        exact absurd (h a ha q.name (name_append q (slash_not_mem_sharedSuffix a ha))) hne

end Path

/-! ## The parts of a pass -/

/-- The generic name for the library directory, in place of its other name. -/
def genericDir (d : Text) : Text :=
  if d = "lib64".toList then "lib".toList else d

/-- The path with the generic name for the library directory. -/
def Path.generic (p : Path) : Path :=
  p.renamed "lib64".toList "lib".toList

namespace NormalizeOptions

open InstallAudit.Path

/-- The path without the suffix of the configuration, where that is to be removed. -/
def bare (o : NormalizeOptions) (p : Path) : Path :=
  match o.librarySuffix with
  | none => p
  | some suffix =>
    if !suffix.isEmpty && o.scope.covers p then (p.withoutSuffix? suffix).getD p else p

/-- What is left of a path without its shared suffix, if it has one. -/
def peel? (o : NormalizeOptions) (p : Path) : Option Path :=
  (p.detached? sharedSuffixes).map o.bare

/-- What the rules of every configuration do together. -/
lemma foldl_commonRules (p : Path) :
    commonRules.foldl Rule.apply ⟨p, false⟩
      = ((p.generic.detached? sharedSuffixes).map fun q => ⟨q, true⟩).getD ⟨p.generic, false⟩ := by
  simp only [commonRules, List.foldl_cons, List.foldl_nil, Rule.apply, Path.generic]
  cases (p.renamed "lib64".toList "lib".toList).detached? sharedSuffixes <;> rfl

/-- A pass makes the library directory generic and then peels once. -/
lemma pass_eq (o : NormalizeOptions) (p : Path) :
    o.normalizer.pass p = (o.peel? p.generic).getD p.generic := by
  obtain ⟨suffix, scope⟩ := o
  rcases suffix with _ | _ | ⟨c, s⟩
  · rw [normalizer, Normalizer.pass, foldl_commonRules, peel?]
    cases p.generic.detached? sharedSuffixes <;> rfl
  · rw [normalizer, Normalizer.pass, foldl_commonRules, peel?]
    cases p.generic.detached? sharedSuffixes <;> rfl
  · rw [normalizer, Normalizer.pass, List.foldl_append, foldl_commonRules, peel?]
    cases p.generic.detached? sharedSuffixes with
    | none => rfl
    | some q =>
        simp only [List.foldl_cons, List.foldl_nil, Rule.apply, Option.map_some, Option.getD_some,
          Bool.true_and, bare]
        split <;> rfl

/-- In scope the suffix of the configuration is removed if it can be.  This holds of the empty suffix as
well, which is never removed: taking it off would change nothing. -/
lemma bare_of_covers {o : NormalizeOptions} {p : Path} {s : Text} (suffix : o.librarySuffix = some s)
    (scope : o.scope.covers p = true) : o.bare p = (p.withoutSuffix? s).getD p := by
  simp only [bare, suffix, scope, Bool.and_true]
  split
  · rfl
  · next hs =>
    have hs : s = [] := by simpa using hs
    cases hq : p.withoutSuffix? s with
    | none => rfl
    | some q => rw [(withoutSuffix?_eq_some.1 hq).1, hs, List.append_nil, Option.getD_some]

lemma bare_of_not_covers {o : NormalizeOptions} {p : Path} (scope : o.scope.covers p = false) :
    o.bare p = p := by
  rw [bare]
  cases o.librarySuffix with
  | none => rfl
  | some s => simp [scope]

/-- Either the suffix of the configuration stays, since it is out of scope or cannot be taken off, or it
is removed and a name is left in front of it. -/
lemma bare_cases (o : NormalizeOptions) (p : Path) :
    (o.bare p = p ∧ ∀ s ∈ o.librarySuffix, o.scope.covers p = true → p.withoutSuffix? s = none)
      ∨ ∃ s, o.librarySuffix = some s ∧ o.scope.covers p = true ∧ p = o.bare p ++ s
        ∧ (o.bare p).name ≠ [] := by
  cases hcovers : o.scope.covers p with
  | false => exact Or.inl ⟨bare_of_not_covers hcovers, by simp⟩
  | true =>
      cases hs : o.librarySuffix with
      | none => exact Or.inl ⟨by simp only [bare, hs], by simp⟩
      | some s =>
          rw [bare_of_covers hs hcovers]
          cases hq : p.withoutSuffix? s with
          | none => exact Or.inl ⟨rfl, by simpa using hq⟩
          | some q => exact Or.inr ⟨s, rfl, rfl, withoutSuffix?_eq_some.1 hq⟩

lemma bare_append {o : NormalizeOptions} {p : Path} {s : Text} (suffix : o.librarySuffix = some s)
    (scope : o.scope.covers (p ++ s) = true) (named : p.name ≠ []) : o.bare (p ++ s) = p := by
  rw [bare_of_covers suffix scope, withoutSuffix?_append s named, Option.getD_some]

lemma bare_eq_self {o : NormalizeOptions} {p : Path}
    (kept : ∀ s ∈ o.librarySuffix, o.scope.covers p = true → p.withoutSuffix? s = none) :
    o.bare p = p := by
  rcases o.bare_cases p with ⟨hbare, -⟩ | ⟨s, hs, hcovers, hp, hname⟩
  · exact hbare
  · have hsome : p.withoutSuffix? s = some (o.bare p) := withoutSuffix?_eq_some.2 ⟨hp, hname⟩
    rw [kept s hs hcovers] at hsome
    cases hsome

/-- **What peeling does.**  It takes a shared suffix off the end, perhaps with more text in front of
it, and leaves a name. -/
lemma exists_of_peel? {o : NormalizeOptions} {p q : Path} (h : o.peel? p = some q) :
    ∃ a ∈ sharedSuffixes, ∃ t, p = q ++ (t ++ a) ∧ q.name ≠ [] := by
  rw [peel?, Option.map_eq_some_iff] at h
  obtain ⟨r, hr, rfl⟩ := h
  obtain ⟨a, ha, rfl, hne⟩ := exists_of_detached? hr
  rcases o.bare_cases r with ⟨hbare, -⟩ | ⟨s, -, -, hr, hname⟩
  · rw [hbare]
    exact ⟨a, ha, [], rfl, hne⟩
  · refine ⟨a, ha, s, ?_, hname⟩
    conv_lhs => rw [hr]
    exact List.append_assoc _ _ _

lemma prefix_of_peel? {o : NormalizeOptions} {p q : Path} (h : o.peel? p = some q) : q <+: p := by
  obtain ⟨a, -, t, rfl, -⟩ := exists_of_peel? h
  exact List.prefix_append _ _

lemma peel?_ne_self {o : NormalizeOptions} {p : Path} : o.peel? p ≠ some p := by
  intro h
  obtain ⟨a, ha, t, heq, -⟩ := exists_of_peel? h
  have hnil : t ++ a = [] := List.append_right_eq_self.1 heq.symm
  exact sharedSuffix_ne_nil a ha (List.append_eq_nil_iff.1 hnil).2

lemma peel?_eq_none {o : NormalizeOptions} {p : Path} :
    o.peel? p = none ↔ ∀ a ∈ sharedSuffixes, ∀ stem, p.name = stem ++ a → stem = [] := by
  rw [peel?, Option.map_eq_none_iff, detached?_eq_none]

end NormalizeOptions

/-! ## The generic library directory -/

namespace Path

lemma segments_generic (p : Path) : p.generic.segments = p.segments.map genericDir :=
  segments_renamed p (by decide)

lemma lib64_not_mem_map_genericDir (ds : List Text) : "lib64".toList ∉ ds.map genericDir := by
  intro h
  obtain ⟨d, -, hd⟩ := List.mem_map.1 h
  rw [genericDir] at hd
  split at hd
  · exact absurd hd (by decide)
  · next hne => exact hne hd

lemma lib64_not_mem_generic (p : Path) : "lib64".toList ∉ p.generic.segments := by
  rw [segments_generic]
  exact lib64_not_mem_map_genericDir p.segments

lemma map_genericDir_eq_self {ds : List Text} (h : "lib64".toList ∉ ds) :
    ds.map genericDir = ds := by
  conv_rhs => rw [← List.map_id ds]
  refine List.map_congr_left fun d hd => if_neg ?_
  rintro rfl
  exact h hd

lemma generic_eq_self {p : Path} (h : "lib64".toList ∉ p.segments) : p.generic = p :=
  renamed_eq_self _ h

lemma segments_generic_eq (p : Path) :
    p.generic.segments = p.dirs.map genericDir ++ [genericDir p.name] := by
  rw [segments_generic, segments_eq, List.map_append, List.map_singleton]

lemma dirs_generic (p : Path) : p.generic.dirs = p.dirs.map genericDir :=
  dirs_of_segments p.segments_generic_eq

lemma lib64_not_mem_dirs_generic (p : Path) : "lib64".toList ∉ p.generic.dirs := by
  rw [dirs_generic]
  exact lib64_not_mem_map_genericDir p.dirs

lemma name_generic (p : Path) : p.generic.name = genericDir p.name :=
  name_of_segments p.segments_generic_eq

lemma generic_sublist (p : Path) : p.generic <+ p :=
  renamed_sublist p (by decide)

lemma generic_generic (p : Path) : p.generic.generic = p.generic :=
  generic_eq_self p.lib64_not_mem_generic

end Path

/-! ## What a pass leaves as it is -/

/-- A path with nothing left to normalize: the library directory is generic, and no shared suffix
stands behind a name. -/
structure Path.IsNormal (p : Path) : Prop where
  generic : "lib64".toList ∉ p.segments
  bare : ∀ a ∈ sharedSuffixes, ∀ stem, p.name = stem ++ a → stem = []

namespace NormalizeOptions

open InstallAudit.Path

/-- A pass leaves characters out and puts none in. -/
lemma pass_sublist (o : NormalizeOptions) (p : Path) : o.normalizer.pass p <+ p := by
  rw [pass_eq]
  cases h : o.peel? p.generic with
  | none => exact p.generic_sublist
  | some q => exact (prefix_of_peel? h).sublist.trans p.generic_sublist

/-- **The paths at rest.**  A pass leaves exactly the normal paths as they are, whatever the
configuration says. -/
lemma pass_eq_self_iff (o : NormalizeOptions) (p : Path) :
    o.normalizer.pass p = p ↔ p.IsNormal := by
  constructor
  · intro h
    have hgen : p.generic = p := by
      refine p.generic_sublist.antisymm ?_
      conv_lhs => rw [← h, pass_eq]
      cases hq : o.peel? p.generic with
      | none => exact List.Sublist.refl _
      | some q => exact (prefix_of_peel? hq).sublist
    refine ⟨hgen ▸ p.lib64_not_mem_generic, peel?_eq_none (o := o) |>.1 ?_⟩
    rw [pass_eq, hgen] at h
    cases hq : o.peel? p with
    | none => rfl
    | some q =>
        rw [hq, Option.getD_some] at h
        exact absurd (h ▸ hq) peel?_ne_self
  · intro h
    rw [pass_eq, generic_eq_self h.generic, peel?_eq_none.2 h.bare, Option.getD_none]

/-! ## Any number of passes -/

lemma iterate_pass_sublist (o : NormalizeOptions) (n : Nat) (p : Path) :
    o.normalizer.pass^[n] p <+ p := by
  induction n generalizing p with
  | zero => exact List.Sublist.refl _
  | succ n ih =>
      rw [Function.iterate_succ_apply]
      exact (ih _).trans (o.pass_sublist p)

/-- Normalization leaves characters out and puts none in. -/
lemma normalize_sublist (o : NormalizeOptions) (p : Path) : o.normalizer.normalize p <+ p := by
  rw [Normalizer.normalize_eq_iterate]
  exact o.iterate_pass_sublist _ p

/-- The first pass makes the library directory generic, so it can be taken for generic from the start. -/
lemma normalize_generic (o : NormalizeOptions) (p : Path) :
    o.normalizer.normalize p.generic = o.normalizer.normalize p :=
  Normalizer.normalize_of_pass_eq (by rw [pass_eq, pass_eq, generic_generic])

/-- Normalization leaves exactly the normal paths as they are. -/
lemma normalize_eq_self_iff (o : NormalizeOptions) (p : Path) :
    o.normalizer.normalize p = p ↔ p.IsNormal := by
  rw [← o.pass_eq_self_iff]
  constructor
  · intro h
    -- the passes behind the first one could only make the path shorter still
    refine (o.pass_sublist p).antisymm ?_
    conv_lhs => rw [← h, Normalizer.normalize_eq_iterate_pass]
    exact o.iterate_pass_sublist _ (o.normalizer.pass p)
  · intro h
    rw [Normalizer.normalize_eq_iterate]
    exact Function.iterate_fixed h _

end NormalizeOptions

end InstallAudit
