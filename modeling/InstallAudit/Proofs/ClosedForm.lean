import InstallAudit.Proofs.Oversight
import InstallAudit.Proofs.Platforms
import InstallAudit.Proofs.Stacking

/-!
# Normal forms in closed form

What normalization makes of a path can be read off the path.  The directories stay where they are, the
library directory under its generic name.  The name loses blocks at its end, each of them a shared suffix,
perhaps with the suffix of the configuration in front of it; what is left is a stem that carries no block
any more, unless the limit on passes was reached first.

* `Block`, `Stacked` — what one pass takes off a name, and several blocks one behind the other.
* `Division` — a name as a stem and blocks, with as many blocks as the limit allows.
* `peel?_eq_some_iff` — a pass takes off one block.
* `peeled_of_stacked`, `exists_stacked_of_peeled` — several passes take off several blocks.
* `iterate_pass_of_peeled` — what becomes of the stem.
* `normalize_iff_exists_peeled`, `name_normalize_iff_division` — what can be said of a normal form by
  looking below the blocks.
* **`normalize_closed_form`** — the normal form of a path is made of its directories and the stem.
-/

namespace InstallAudit

open InstallAudit.Path

namespace NormalizeOptions

/-! ## Blocks -/

/-- What one pass takes off the name of a path `p`, where `left` stands in front of it: a shared suffix,
with the suffix of the configuration in front if that is in scope.  That suffix stays if it is out of
scope, if `left` does not end with it, and if `left` is nothing else. -/
inductive Block (o : NormalizeOptions) (p : Path) (left : Text) : Text → Prop
  | suffixed {s a : Text} (suffix : o.librarySuffix = some s) (scope : o.InScope p)
      (ha : a ∈ sharedSuffixes) : Block o p left (s ++ a)
  | plain {a : Text} (ha : a ∈ sharedSuffixes)
      (kept : ∀ s ∈ o.librarySuffix, o.InScope p → s <:+ left → left = s) : Block o p left a

/-- Blocks that stand one behind the other on a stem, the nearest one first. -/
inductive Stacked (o : NormalizeOptions) (p : Path) (stem : Text) : List Text → Prop
  | nil : Stacked o p stem []
  | snoc {blocks : List Text} {b : Text} (below : Stacked o p stem blocks)
      (top : Block o p (stem ++ blocks.flatten) b) : Stacked o p stem (blocks ++ [b])

/-- **The parts of a name.**  There are as many blocks as can be taken off, up to the limit on passes. -/
structure Division (o : NormalizeOptions) (p : Path) (stem : Text) (blocks : List Text) : Prop where
  name : p.name = stem ++ blocks.flatten
  stacked : Stacked o p stem blocks
  named : p.name ≠ [] → stem ≠ []
  limited : blocks.length ≤ Normalizer.passLimit
  maximal : blocks.length = Normalizer.passLimit
    ∨ ∀ a ∈ sharedSuffixes, ∀ t, stem = t ++ a → t = []

section

variable {o : NormalizeOptions} {p q : Path} {stem : Text} {blocks : List Text}

lemma Block.slash_not_mem (flat : o.FlatSuffix) {left b : Text} (h : Block o p left b) : '/' ∉ b := by
  cases h with
  | @suffixed s a suffix _ ha =>
      have hs := flat s suffix
      have ha := slash_not_mem_sharedSuffix a ha
      simp [hs, ha]
  | plain ha _ => exact slash_not_mem_sharedSuffix _ ha

lemma Block.ne_nil {left b : Text} (h : Block o p left b) : b ≠ [] := by
  cases h with
  | suffixed _ _ ha => exact List.append_ne_nil_of_right_ne_nil _ (sharedSuffix_ne_nil _ ha)
  | plain ha _ => exact sharedSuffix_ne_nil _ ha

lemma Stacked.slash_not_mem (flat : o.FlatSuffix) (h : Stacked o p stem blocks) :
    '/' ∉ blocks.flatten := by
  induction h with
  | nil => simp
  | snoc _ top ih =>
      rw [List.flatten_append, List.mem_append, not_or, List.flatten_singleton]
      exact ⟨ih, top.slash_not_mem flat⟩

/-! ## Passes and blocks -/

/-- **A pass takes off one block.** -/
lemma peel?_eq_some_iff (flat : o.FlatSuffix) {x : Path} (hx : x.dirs = p.dirs.map genericDir) :
    o.peel? x = some q ↔ ∃ b, x = q ++ b ∧ q.name ≠ [] ∧ Block o p q.name b := by
  constructor
  · intro h
    rw [peel?, Option.map_eq_some_iff] at h
    obtain ⟨r, hr, rfl⟩ := h
    obtain ⟨a, ha, rfl, hname⟩ := exists_of_detached? hr
    rw [dirs_append r (slash_not_mem_sharedSuffix a ha)] at hx
    -- the shared suffix `a` is off; what goes with it is up to the suffix of the configuration
    rcases o.bare_cases r with ⟨hbare, hkept⟩ | ⟨s, hs, hcovers, hr, hname⟩
    · rw [hbare]
      refine ⟨a, rfl, hname, .plain ha fun s hs scope => ?_⟩
      rw [← withoutSuffix?_eq_none_iff (flat s hs)]
      exact hkept s hs ((covers_iff_inScope hx).2 scope)
    · refine ⟨s ++ a, ?_, hname, .suffixed hs ((covers_iff_inScope hx).1 hcovers) ha⟩
      rw [← List.append_assoc, ← hr]
  · rintro ⟨b, rfl, hname, hb⟩
    rw [dirs_append q (hb.slash_not_mem flat)] at hx
    cases hb with
    | @suffixed s a suffix scope ha =>
        have free : '/' ∉ s := flat s suffix
        have hdirs : dirs (q ++ s) = p.dirs.map genericDir := by rw [dirs_append q free, hx]
        have hname' : name (q ++ s) ≠ [] := by
          rw [name_append q free]
          exact List.append_ne_nil_of_left_ne_nil hname s
        rw [← List.append_assoc, peel?, detached?_append ha hname', Option.map_some,
          bare_append suffix ((covers_iff_inScope hdirs).2 scope) hname]
    | plain ha kept =>
        rw [peel?, detached?_append ha hname, Option.map_some, bare_eq_self]
        intro s hs hcovers
        rw [withoutSuffix?_eq_none_iff (flat s hs)]
        exact kept s hs ((covers_iff_inScope hx).1 hcovers)

/-- As many passes as there are blocks lead down to the stem. -/
lemma peeled_of_stacked (flat : o.FlatSuffix) (hq : q.dirs = p.dirs.map genericDir)
    (hname : q.name ≠ []) (h : Stacked o p q.name blocks) :
    o.peeled blocks.length (q ++ blocks.flatten) = some q := by
  induction h with
  | nil => rw [List.flatten_nil, List.append_nil]; rfl
  | @snoc blocks b below top ih =>
      -- the last block is the first one to go
      have free := below.slash_not_mem flat
      have hdirs : dirs (q ++ blocks.flatten ++ b) = p.dirs.map genericDir := by
        rw [dirs_append _ (top.slash_not_mem flat), dirs_append q free, hq]
      rw [← name_append q free] at top
      have hleft : name (q ++ blocks.flatten) ≠ [] := by
        rw [name_append q free]
        exact List.append_ne_nil_of_left_ne_nil hname _
      have hpeel := (peel?_eq_some_iff flat hdirs).2 ⟨b, rfl, hleft, top⟩
      rw [List.length_append, List.length_singleton, peeled, List.flatten_append,
        List.flatten_singleton, ← List.append_assoc, hpeel, Option.bind_some, ih]

/-- What passes take off a path are blocks, and a name is left. -/
lemma exists_stacked_of_peeled (flat : o.FlatSuffix) {k : Nat} {x rest : Path}
    (hx : x.dirs = p.dirs.map genericDir) (h : o.peeled k x = some rest) :
    ∃ blocks, blocks.length = k ∧ x = rest ++ blocks.flatten ∧ (x.name ≠ [] → rest.name ≠ [])
      ∧ Stacked o p rest.name blocks := by
  induction k generalizing x with
  | zero =>
      obtain rfl : x = rest := Option.some.inj h
      exact ⟨[], rfl, (List.append_nil x).symm, id, .nil⟩
  | succ k ih =>
      rw [peeled, Option.bind_eq_some_iff] at h
      obtain ⟨q, hq, hrest⟩ := h
      have hdirs : q.dirs = p.dirs.map genericDir := by rw [dirs_of_peel? flat hq, hx]
      obtain ⟨b, rfl, hname, top⟩ := (peel?_eq_some_iff flat hx).1 hq
      obtain ⟨blocks, rfl, rfl, hstem, below⟩ := ih hdirs hrest
      rw [name_append rest (below.slash_not_mem flat)] at top
      refine ⟨blocks ++ [b], by simp, by simp, fun _ => hstem hname, below.snoc top⟩

/-! ## The stem -/

/-- Blocks can be taken off until there is none, or until the limit is reached. -/
lemma exists_peeled (o : NormalizeOptions) (n : Nat) (p : Path) :
    ∃ k ≤ n, ∃ rest, o.peeled k p = some rest ∧ (k = n ∨ o.peel? rest = none) := by
  induction n generalizing p with
  | zero => exact ⟨0, Nat.le_refl 0, p, rfl, Or.inl rfl⟩
  | succ n ih =>
      cases h : o.peel? p with
      | none => exact ⟨0, Nat.zero_le _, p, rfl, Or.inr h⟩
      | some q =>
          obtain ⟨k, hk, rest, hrest, hlast⟩ := ih q
          refine ⟨k + 1, Nat.succ_le_succ hk, rest, ?_, hlast.imp_left (congrArg Nat.succ)⟩
          rw [peeled, h, Option.bind_some, hrest]

/-- **What becomes of the stem.**  A pass that finds no block makes the name generic, if the limit leaves
room for such a pass. -/
lemma iterate_pass_of_peeled {k n : Nat} {rest : Path} (hp : "lib64".toList ∉ p.dirs)
    (h : o.peeled k p = some rest) (hk : k ≤ n) (hlast : k = n ∨ o.peel? rest = none) :
    o.normalizer.pass^[n] p = if k < n then rest.generic else rest := by
  induction k generalizing n p with
  | zero =>
      obtain rfl : p = rest := Option.some.inj h
      cases n with
      | zero => rfl
      | succ n =>
          have hnone := hlast.resolve_left (Nat.succ_ne_zero n).symm
          rw [iterate_pass_of_peel?_eq_none n hnone, if_pos (Nat.succ_pos n)]
  | succ k ih =>
      rw [peeled, Option.bind_eq_some_iff] at h
      obtain ⟨q, hq, hrest⟩ := h
      obtain ⟨m, rfl⟩ : ∃ m, n = m + 1 := ⟨n - 1, by omega⟩
      rw [Function.iterate_succ_apply, pass_of_peel? hq hp,
        ih (lib64_not_mem_dirs_of_peel? hq hp) hrest (by omega)
          (hlast.imp_left Nat.succ_injective.eq_iff.1)]
      simp only [Nat.succ_lt_succ_iff]

/-- **What normalization brings to light.**  Where a property says that no block is left, a path comes to
have it exactly when something below its blocks has it, within the limit. -/
lemma normalize_iff_exists_peeled {P : Path → Prop} (rests : ∀ q, P q → o.peel? q = none)
    (generic : ∀ q : Path, P q.generic ↔ P q) (p : Path) :
    P (o.normalizer.normalize p)
      ↔ ∃ k ≤ Normalizer.passLimit, ∃ rest, o.peeled k p.generic = some rest ∧ P rest := by
  have hnormalize : ∀ k ≤ Normalizer.passLimit, ∀ rest, o.peeled k p.generic = some rest →
      k = Normalizer.passLimit ∨ o.peel? rest = none →
        (P (o.normalizer.normalize p) ↔ P rest) := by
    intro k hk rest hrest hlast
    rw [← normalize_generic, Normalizer.normalize_eq_iterate,
      iterate_pass_of_peeled p.lib64_not_mem_dirs_generic hrest hk hlast]
    split
    · exact generic rest
    · rfl
  constructor
  · intro h
    obtain ⟨k, hk, rest, hrest, hlast⟩ := o.exists_peeled Normalizer.passLimit p.generic
    exact ⟨k, hk, rest, hrest, (hnormalize k hk rest hrest hlast).1 h⟩
  · rintro ⟨k, hk, rest, hrest, hP⟩
    exact (hnormalize k hk rest hrest (Or.inr (rests rest hP))).2 hP

/-! ## Closed form -/

lemma exists_division (flat : o.FlatSuffix) (p : Path) : ∃ stem blocks, Division o p stem blocks := by
  obtain ⟨k, hk, rest, hrest, hlast⟩ := o.exists_peeled Normalizer.passLimit p.genericDirs
  obtain ⟨blocks, rfl, hp, hstem, stacked⟩ :=
    exists_stacked_of_peeled flat (dirs_genericDirs p) hrest
  have hname := name_genericDirs p
  refine ⟨rest.name, blocks, ?_, stacked, fun h => hstem (hname ▸ h), hk, hlast.imp_right ?_⟩
  · rw [← hname, hp, name_append rest (stacked.slash_not_mem flat)]
  · exact peel?_eq_none.1

/-- A path without a name has no blocks. -/
lemma Division.blocks_eq_nil (h : Division o p [] blocks) : blocks = [] := by
  have hname : p.name = [] := by
    by_contra hne
    exact h.named hne rfl
  have hflatten := h.name.symm.trans hname
  cases h.stacked with
  | nil => rfl
  | snoc _ top =>
      rw [List.nil_append, List.flatten_append, List.flatten_singleton] at hflatten
      exact absurd (List.append_eq_nil_iff.1 hflatten).2 top.ne_nil

lemma segments_normalize (flat : o.FlatSuffix) (h : Division o p stem blocks) :
    (o.normalizer.normalize p).segments = p.dirs.map genericDir
      ++ [if blocks.length < Normalizer.passLimit then genericDir stem else stem] := by
  have hlib := lib64_not_mem_map_genericDir p.dirs
  have hfree : '/' ∉ stem := fun hs =>
    p.slash_not_mem_name (h.name ▸ List.mem_append_left _ hs)
  -- the path in front of the blocks
  obtain ⟨q, hq⟩ : ∃ q : Path, q.segments = p.dirs.map genericDir ++ [stem] :=
    ⟨_, segments_make p.slash_not_mem_map_genericDir hfree⟩
  have hdirs := dirs_of_segments hq
  have hname := name_of_segments hq
  subst hname
  have hp : p.genericDirs = q ++ blocks.flatten := by
    refine segments_injective ?_
    rw [segments_genericDirs, segments_append q (h.stacked.slash_not_mem flat), hdirs, h.name]
  have hpeeled : o.peeled blocks.length p.genericDirs = some q := by
    rw [hp]
    by_cases hstem : q.name = []
    · rw [hstem] at h
      rw [h.blocks_eq_nil, List.flatten_nil, List.append_nil]
      rfl
    · exact peeled_of_stacked flat hdirs hstem h.stacked
  -- the blocks were counted on the path with generic directories, which has the same normal form
  rw [← normalize_generic, ← generic_genericDirs, normalize_generic, Normalizer.normalize_eq_iterate,
    iterate_pass_of_peeled (dirs_genericDirs p ▸ hlib) hpeeled h.limited
      (h.maximal.imp_right peel?_eq_none.2)]
  split
  · rw [segments_generic_eq, hdirs, map_genericDir_eq_self hlib]
  · exact hq

/-- What is said of the name of a normal form is said of the stem, if it does not depend on the name of the
library directory. -/
lemma name_normalize_iff_division (flat : o.FlatSuffix) {P : Text → Prop}
    (generic : ∀ d, P (genericDir d) ↔ P d) (p : Path) :
    P (o.normalizer.normalize p).name ↔ ∃ stem blocks, Division o p stem blocks ∧ P stem := by
  have hname : ∀ stem blocks, Division o p stem blocks →
      (P (o.normalizer.normalize p).name ↔ P stem) := by
    intro stem blocks h
    rw [name_of_segments (segments_normalize flat h)]
    split
    · exact generic stem
    · rfl
  constructor
  · intro h
    obtain ⟨stem, blocks, hdivision⟩ := exists_division flat p
    exact ⟨stem, blocks, hdivision, (hname stem blocks hdivision).1 h⟩
  · rintro ⟨stem, blocks, hdivision, hP⟩
    exact (hname stem blocks hdivision).2 hP

end

end NormalizeOptions

/-- **The normal form of a path.**  Its directories are those of the path, in their order and under their
generic names, and its name is the stem of the name of the path.  A stem `lib64` is taken for the library
directory if there are passes left for it. -/
theorem normalize_closed_form {o : NormalizeOptions} (flat : o.FlatSuffix) (p q : Path) :
    o.normalizer.normalize p = q
      ↔ ∃ stem blocks, o.Division p stem blocks
        ∧ q.segments = p.dirs.map genericDir
          ++ [if blocks.length < Normalizer.passLimit then genericDir stem else stem] := by
  constructor
  · rintro rfl
    obtain ⟨stem, blocks, h⟩ := NormalizeOptions.exists_division flat p
    exact ⟨stem, blocks, h, NormalizeOptions.segments_normalize flat h⟩
  · rintro ⟨stem, blocks, h, hq⟩
    exact segments_injective ((NormalizeOptions.segments_normalize flat h).trans hq.symm)

/-- A debug build of a library that is called like the library directory, with three shared suffixes one
behind the other, of which the last one has no suffix of the configuration in front. -/
theorem normalize_closed_form_debug_build :
    let o : NormalizeOptions := { librarySuffix := some "_d".toList }
    let p := "lib64/x/lib64_d.so_d.dll.dylib".toList
    let blocks := ["_d.so".toList, "_d.dll".toList, ".dylib".toList]
    o.FlatSuffix ∧ o.Division p "lib64".toList blocks
      ∧ o.normalizer.normalize p = "lib/x/lib".toList := by
  intro o p blocks
  have flat : o.FlatSuffix := by decide
  have scope : o.InScope p := Or.inr ⟨"lib64".toList, by decide, Or.inr rfl⟩
  have first : o.Stacked p "lib64".toList ["_d.so".toList] :=
    .snoc .nil (.suffixed rfl scope (by decide))
  have second : o.Stacked p "lib64".toList ["_d.so".toList, "_d.dll".toList] :=
    .snoc first (.suffixed rfl scope (by decide))
  have third : o.Stacked p "lib64".toList blocks := by
    refine .snoc second (.plain (by decide) ?_)
    rintro s ⟨⟩ - hs
    exact absurd hs (by decide)
  have hdivision : o.Division p "lib64".toList blocks :=
    ⟨by decide, third, by decide, by decide, Or.inr fun a ha t ht =>
      absurd ⟨t, ht.symm⟩ (not_suffix_lib64 a ha)⟩
  exact ⟨flat, hdivision, (normalize_closed_form flat p _).2 ⟨_, _, hdivision, by decide⟩⟩

end InstallAudit
