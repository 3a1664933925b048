import InstallAudit.Normalizer
import InstallAudit.Proofs.Texts

/-!
# Paths as lists of segments

Every rule on paths is stated on segments and computed on characters.  This module holds what
carries facts from one view to the other.

* `segments_eq` — a path is its directories and its name.
* `segments_append_slash`, `segments_append` — the segments of a longer path.  Text without `/` at
  the end of a path changes the name alone.
* `ofSegments_sublist` — leaving segments out, or letters out of segments, leaves characters out.
* `withoutSuffix?_eq_some` — taking a suffix off undoes putting it on, as long as a name is left.
* `renamed_sublist`, `segments_renamed` — renaming segments.
-/

namespace InstallAudit

open scoped List

namespace Path

/-! ## Directories and name -/

/-- A path is its directories and its name. -/
lemma segments_eq (p : Path) : p.segments = p.dirs ++ [p.name] := by
  have hne := segments_ne_nil p
  have hname : p.name = p.segments.getLast hne := by
    rw [name, List.getLast?_eq_some_getLast hne, Option.getD_some]
  rw [dirs, hname]
  exact (List.dropLast_append_getLast hne).symm

/-- Two paths with the same segments are equal. -/
lemma segments_injective {p q : Path} (h : p.segments = q.segments) : p = q := by
  rw [← ofSegments_segments p, h, ofSegments_segments]

/-- No segment contains `/`. -/
lemma slash_not_mem {p : Path} {s : Text} (h : s ∈ p.segments) : '/' ∉ s :=
  Text.not_mem_of_mem_splitOn h

lemma slash_not_mem_name (p : Path) : '/' ∉ p.name :=
  slash_not_mem (p := p) (by rw [segments_eq]; simp)

lemma slash_not_mem_dirs {p : Path} {d : Text} (h : d ∈ p.dirs) : '/' ∉ d :=
  slash_not_mem (p := p) (by rw [segments_eq]; exact List.mem_append_left _ h)

/-- Directories and a name, none of them with a `/`, are the directories and the name of the path
that they make. -/
lemma segments_make {ds : List Text} {f : Text} (hd : ∀ d ∈ ds, '/' ∉ d) (hf : '/' ∉ f) :
    segments (ofSegments (ds ++ [f])) = ds ++ [f] := by
  refine segments_ofSegments ?_ (by simp)
  intro s hs
  rcases List.mem_append.1 hs with hs | hs
  · exact hd s hs
  · rw [List.mem_singleton.1 hs]; exact hf

lemma dirs_of_segments {p : Path} {ds : List Text} {f : Text} (h : p.segments = ds ++ [f]) :
    p.dirs = ds := by
  rw [dirs, h, List.dropLast_concat]

lemma name_of_segments {p : Path} {ds : List Text} {f : Text} (h : p.segments = ds ++ [f]) :
    p.name = f := by
  rw [name, h]; simp

/-! ## Longer paths -/

/-- A `/` divides the segments in front of it from those behind it. -/
lemma segments_append_slash (p q : Path) :
    segments (p ++ '/' :: q) = p.segments ++ q.segments :=
  List.splitOn_append_cons_self p q

lemma segments_eq_singleton {s : Text} (free : '/' ∉ s) : segments s = [s] :=
  List.splitOn_eq_singleton free

/-- Two runs of segments make two paths with a `/` between them. -/
lemma ofSegments_append {xs ys : List Text} (hx : xs ≠ []) (hy : ys ≠ []) :
    ofSegments (xs ++ ys) = ofSegments xs ++ '/' :: ofSegments ys := by
  induction xs with
  | nil => exact absurd rfl hx
  | cons x xs ih =>
      cases xs with
      | nil => simp [ofSegments, List.intercalate_cons_of_ne_nil hy]
      | cons x' xs =>
          have ih := ih (by simp)
          simp only [ofSegments, List.cons_append, List.intercalate_cons_cons] at ih ⊢
          rw [ih]
          simp

lemma mem_ofSegments_iff {c : Char} (hc : c ≠ '/') (segs : List Text) :
    c ∈ ofSegments segs ↔ ∃ s ∈ segs, c ∈ s := by
  induction segs with
  | nil => simp [ofSegments]
  | cons x xs ih =>
      cases xs with
      | nil => simp [ofSegments]
      | cons x' xs =>
          rw [← List.singleton_append, ofSegments_append (by simp) (by simp), List.mem_append,
            List.mem_cons, ih]
          simp [ofSegments, hc]

/-- A character other than `/` is in a path when it is in one of its segments. -/
lemma mem_iff_mem_segments {c : Char} (hc : c ≠ '/') (p : Path) :
    c ∈ p ↔ ∃ s ∈ p.segments, c ∈ s := by
  rw [← mem_ofSegments_iff hc, ofSegments_segments]

/-- A path without directories is its name. -/
lemma eq_name {p : Path} (h : p.dirs = []) : p = p.name := by
  conv_lhs => rw [← ofSegments_segments p, segments_eq, h]
  simp [ofSegments]

/-- A path with directories is these, a `/` and its name. -/
lemma eq_dirs_slash_name {p : Path} (h : p.dirs ≠ []) :
    p = ofSegments p.dirs ++ '/' :: p.name := by
  conv_lhs => rw [← ofSegments_segments p, segments_eq, ofSegments_append h (by simp)]
  simp [ofSegments]

lemma name_suffix (p : Path) : p.name <:+ p := by
  by_cases h : p.dirs = []
  · rw [← eq_name h]
  · conv_rhs => rw [eq_dirs_slash_name h]
    exact ⟨ofSegments p.dirs ++ ['/'], by simp⟩

/-- Text without `/` at the end of a path changes its name alone. -/
lemma segments_append (p : Path) {s : Text} (free : '/' ∉ s) :
    segments (p ++ s) = p.dirs ++ [p.name ++ s] := by
  have hname : '/' ∉ p.name ++ s := by simp [slash_not_mem_name, free]
  by_cases h : p.dirs = []
  · conv_lhs => rw [eq_name h]
    rw [h, segments_eq_singleton hname, List.nil_append]
  · conv_lhs => rw [eq_dirs_slash_name h]
    rw [List.append_assoc, List.cons_append, segments_append_slash, segments_eq_singleton hname,
      segments_ofSegments (fun _ hd => slash_not_mem_dirs hd) h]

lemma dirs_append (p : Path) {s : Text} (free : '/' ∉ s) : dirs (p ++ s) = p.dirs :=
  dirs_of_segments (segments_append p free)

lemma name_append (p : Path) {s : Text} (free : '/' ∉ s) : name (p ++ s) = p.name ++ s :=
  name_of_segments (segments_append p free)

lemma segments_append_slash_eq (p q : Path) :
    segments (p ++ '/' :: q) = (p.segments ++ q.dirs) ++ [q.name] := by
  rw [segments_append_slash, segments_eq q, List.append_assoc]

/-- The directories of the front part of a path are the first directories of the path. -/
lemma dirs_prefix_dirs (p t : Path) : p.dirs <+: dirs (p ++ t) := by
  by_cases h : '/' ∈ t
  · obtain ⟨s, t, rfl, free⟩ := List.eq_append_cons_of_mem h
    rw [← List.append_assoc, dirs_of_segments (segments_append_slash_eq _ _),
      segments_append p free, List.append_assoc]
    exact List.prefix_append _ _
  · rw [dirs_append p h]

lemma length_segments_le_of_prefix {p q : Path} (h : p <+: q) :
    p.segments.length ≤ q.segments.length := by
  obtain ⟨t, rfl⟩ := h
  have hdirs := (dirs_prefix_dirs p t).length_le
  rw [segments_eq, segments_eq, List.length_append, List.length_append]
  exact Nat.succ_le_succ hdirs

/-! ## Suffixes -/

/-- A path has no name exactly when nothing stands behind its last `/`. -/
lemma name_eq_nil (p : Path) : p.name = [] ↔ p = [] ∨ p.endsWith '/' = true := by
  rcases List.eq_nil_or_concat p with rfl | ⟨q, c, rfl⟩
  · simp [name, segments]
  · rw [List.concat_eq_append]
    by_cases hc : c = '/'
    · subst hc
      rw [name_of_segments (segments_append_slash_eq q [])]
      simp [name, segments, Text.endsWith]
    · rw [name_append q (by simpa using Ne.symm hc)]
      simp [Text.endsWith, hc]

/-- Taking a suffix off undoes putting it on, as long as a name is left. -/
lemma withoutSuffix?_eq_some {p s q : Path} :
    p.withoutSuffix? s = some q ↔ p = q ++ s ∧ q.name ≠ [] := by
  rw [withoutSuffix?, Option.filter_eq_some_iff, List.isSuffixOf?_eq_some_iff_append_eq, ne_eq,
    name_eq_nil, eq_comm]
  simp

lemma withoutSuffix?_append {q : Path} (s : Text) (h : q.name ≠ []) :
    withoutSuffix? (q ++ s) s = some q :=
  withoutSuffix?_eq_some.2 ⟨rfl, h⟩

/-- Text without `/` ends a path when it ends the name of the path. -/
lemma suffix_iff_suffix_name {p : Path} {s : Text} (free : '/' ∉ s) : s <:+ p ↔ s <:+ p.name := by
  constructor
  · rintro ⟨q, rfl⟩
    rw [name_append q free]
    exact List.suffix_append _ _
  · intro h
    exact h.trans (name_suffix p)

/-- A suffix without `/` cannot be taken off when the name does not end with it or is nothing else. -/
lemma withoutSuffix?_eq_none_iff {p : Path} {s : Text} (free : '/' ∉ s) :
    p.withoutSuffix? s = none ↔ (s <:+ p.name → p.name = s) := by
  constructor
  · intro hnone hs
    obtain ⟨q, rfl⟩ := (suffix_iff_suffix_name free).2 hs
    rw [name_append q free]
    by_contra hq
    rw [withoutSuffix?_append s fun hnil => hq (by rw [hnil, List.nil_append])] at hnone
    cases hnone
  · intro h
    cases hq : p.withoutSuffix? s with
    | none => rfl
    | some q =>
        obtain ⟨rfl, hname⟩ := withoutSuffix?_eq_some.1 hq
        rw [name_append q free] at h
        exact absurd (List.append_left_eq_self.1 (h (List.suffix_append _ _))) hname

/-! ## Renaming -/

lemma segments_renamed (p : Path) {old new : Text} (free : '/' ∉ new) :
    (p.renamed old new).segments = p.segments.map fun s => if s = old then new else s := by
  refine segments_ofSegments ?_ (by simpa using segments_ne_nil p)
  intro s hs
  obtain ⟨t, ht, rfl⟩ := List.mem_map.1 hs
  split
  · exact free
  · exact slash_not_mem ht

lemma renamed_eq_self {p : Path} {old : Text} (new : Text) (h : old ∉ p.segments) :
    p.renamed old new = p := by
  have hmap : (p.segments.map fun s => if s = old then new else s) = p.segments := by
    calc (p.segments.map fun s => if s = old then new else s)
        = p.segments.map id :=
          List.map_congr_left fun s hs => if_neg (by rintro rfl; exact h hs)
      _ = p.segments := List.map_id _
  rw [renamed, hmap, ofSegments_segments]

/-- Leaving letters out of segments leaves them out of the path. -/
lemma ofSegments_sublist {xs ys : List Text} (h : List.Forall₂ (· <+ ·) xs ys) :
    ofSegments xs <+ ofSegments ys := by
  induction h with
  | nil => exact List.Sublist.refl _
  | @cons x y xs ys hxy hrest ih =>
      cases hrest with
      | nil => simpa [ofSegments] using hxy
      | cons hxy' hrest' =>
          simp only [ofSegments, List.intercalate_cons_cons] at ih ⊢
          exact (hxy.append (List.Sublist.refl _)).append ih

/-- A name for segments that is part of the old one makes a path that is part of the old one. -/
lemma renamed_sublist (p : Path) {old new : Text} (h : new <+ old) : p.renamed old new <+ p := by
  conv_rhs => rw [← ofSegments_segments p]
  refine ofSegments_sublist (List.forall₂_map_left_iff.2 (List.forall₂_same.2 ?_))
  intro s _
  split
  · next hs => rw [hs]; exact h
  · exact List.Sublist.refl _

end Path

end InstallAudit
