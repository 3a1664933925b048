import InstallAudit.Proofs.Segments

/-!
# Cutting and cleaning paths

A path in a listing may have the path of the installation root in front of it, and segments that
say nothing in the middle.  Both are taken out.  What these operations compute on characters is said
here on segments.

* `unified_eq_self` — a path without `\` is unified already.
* `afterMarker?_eq_some`, `afterMarker?_eq_none` — a marker is found when its segments occur as a
  run with something behind it, and the first such run counts.
* `afterPrefix?_eq_some`, `afterPrefix?_eq_none` — a prefix is found when its segments are the first
  ones.
* `Path.IsClean`, `isClean_clean`, `clean_eq_self_iff` — cleaning gives a clean path, and leaves
  exactly the clean ones as they are.

Each operation leaves segments out, so each gives a shorter path or the same one; the lemmas
`…_sublist` and `…_ne_self` say so.
-/

namespace InstallAudit

open scoped List

namespace Path

/-! ## Leaving segments out -/

lemma ofSegments_cons {ys : List Text} (x : Text) (h : ys ≠ []) :
    ofSegments (x :: ys) = x ++ '/' :: ofSegments ys := by
  rw [← List.singleton_append, ofSegments_append (List.cons_ne_nil _ _) h]
  simp [ofSegments]

/-- Leaving segments out leaves characters out. -/
lemma ofSegments_sublist_of_sublist {xs ys : List Text} (h : xs <+ ys) :
    ofSegments xs <+ ofSegments ys := by
  induction h with
  | slnil => exact List.Sublist.refl _
  | @cons xs ys y h ih =>
      by_cases hys : ys = []
      · subst hys
        rw [List.sublist_nil.1 h]
        exact List.nil_sublist _
      · rw [ofSegments_cons y hys]
        exact (ih.trans (List.sublist_cons_self _ _)).trans (List.sublist_append_right _ _)
  | @cons_cons xs ys x h ih =>
      by_cases hxs : xs = []
      · subst hxs
        by_cases hys : ys = []
        · rw [hys]
        · rw [ofSegments_cons x hys]
          simp [ofSegments]
      · have hys : ys ≠ [] := fun hys => hxs (List.sublist_nil.1 (hys ▸ h))
        rw [ofSegments_cons x hxs, ofSegments_cons x hys]
        exact (List.Sublist.refl x).append (ih.cons_cons '/')

/-- A path whose segments are some of the segments of another one is part of it. -/
lemma sublist_of_segments_sublist {p q : Path} (h : q.segments <+ p.segments) : q <+ p := by
  rw [← ofSegments_segments q, ← ofSegments_segments p]
  exact ofSegments_sublist_of_sublist h

/-! ## Separators -/

lemma length_unified (p : Path) : p.unified.length = p.length :=
  List.length_map _

/-- A path without `\` is unified already. -/
lemma unified_eq_self {p : Path} (h : '\\' ∉ p) : p.unified = p := by
  calc p.unified = p.map id :=
        List.map_congr_left fun c hc => if_neg (by rintro rfl; exact h hc)
    _ = p := List.map_id p

lemma backslash_not_mem_unified (p : Path) : '\\' ∉ p.unified := by
  intro h
  obtain ⟨c, -, hc⟩ := List.mem_map.1 h
  split at hc
  · cases hc
  · next hne => exact hne hc

/-- Unifying puts no character in but `/`. -/
lemma mem_of_mem_unified {p : Path} {c : Char} (h : c ∈ p.unified) : c = '/' ∨ c ∈ p := by
  obtain ⟨d, hd, hc⟩ := List.mem_map.1 h
  split at hc
  · exact Or.inl hc.symm
  · exact Or.inr (hc ▸ hd)

/-! ## The marker of the installation root -/

/-- Where the segments of a path occur in a longer one with something behind them, that path stands in
front of the longer one or between two `/` of it. -/
lemma eq_of_segments_eq_run {p m : Path} {front rest : List Text}
    (h : p.segments = front ++ m.segments ++ rest) (hrest : rest ≠ []) :
    (front = [] ∧ p = (m ++ ['/']) ++ ofSegments rest)
      ∨ (front ≠ [] ∧ p = ofSegments front ++ (('/' :: m ++ ['/']) ++ ofSegments rest)) := by
  have htail : ofSegments (m.segments ++ rest) = m ++ '/' :: ofSegments rest := by
    rw [ofSegments_append (segments_ne_nil _) hrest, ofSegments_segments]
  rw [List.append_assoc] at h
  by_cases hfront : front = []
  · refine Or.inl ⟨hfront, ?_⟩
    rw [← ofSegments_segments p, h, hfront, List.nil_append, htail, List.append_assoc,
      List.singleton_append]
  · refine Or.inr ⟨hfront, ?_⟩
    rw [← ofSegments_segments p, h,
      ofSegments_append hfront (List.append_ne_nil_of_right_ne_nil _ hrest), htail]
    simp

/-- What follows the marker follows its segments, and nowhere further in front do these occur with
something behind them. -/
lemma afterMarker?_eq_some {p marker rest : Path} (h : p.afterMarker? marker = some rest) :
    ∃ front, p.segments = front ++ (trimSlashes marker).segments ++ rest.segments
      ∧ ∀ front' rest', p.segments = front' ++ (trimSlashes marker).segments ++ rest' →
        rest' ≠ [] → front.length ≤ front'.length := by
  rw [afterMarker?] at h
  split at h
  · cases h
  · rw [Option.or_eq_some_iff, List.isPrefixOf?_eq_some_iff_append_eq] at h
    rcases h with h | ⟨hnone, h⟩
    · refine ⟨[], ?_, by simp⟩
      rw [← h, List.append_assoc, List.singleton_append, segments_append_slash, List.nil_append]
    · obtain ⟨front, hp, hfirst⟩ := Text.afterFirst?_eq_some h
      refine ⟨segments front, ?_, fun front' rest' hsegments hrest => ?_⟩
      · rw [hp, List.cons_append, List.cons_append, segments_append_slash, List.append_assoc,
          List.singleton_append, segments_append_slash, List.append_assoc]
      · rcases eq_of_segments_eq_run hsegments hrest with ⟨-, hp'⟩ | ⟨hfront', hp'⟩
        · rw [List.isPrefixOf?_eq_some_iff_append_eq.2 hp'.symm] at hnone
          cases hnone
        · -- of two parts in front of the path, the shorter one has no more segments
          have hprefix : front <+: ofSegments front' :=
            List.prefix_of_prefix_length_le ⟨_, hp.symm⟩ ⟨_, hp'.symm⟩ (hfirst _ _ hp')
          have hfree : ∀ s ∈ front', '/' ∉ s := fun s hs => slash_not_mem (p := p) (by
            rw [hsegments, List.append_assoc]
            exact List.mem_append_left _ hs)
          rw [← segments_ofSegments hfree hfront']
          exact length_segments_le_of_prefix hprefix

/-- The marker is not found when it is blank, or when nothing stands behind any occurrence of its
segments. -/
lemma afterMarker?_eq_none {p marker : Path} :
    p.afterMarker? marker = none ↔ trimSlashes marker = []
      ∨ ∀ front rest, p.segments = front ++ (trimSlashes marker).segments ++ rest → rest = [] := by
  constructor
  · intro h
    rw [or_iff_not_imp_left]
    intro hmarker front rest hsegments
    by_contra hrest
    rw [afterMarker?, if_neg (by simpa using hmarker), Option.or_eq_none_iff] at h
    rcases eq_of_segments_eq_run hsegments hrest with ⟨-, hp⟩ | ⟨-, hp⟩
    · rw [List.isPrefixOf?_eq_some_iff_append_eq.2 hp.symm] at h
      cases h.1
    · exact Text.afterFirst?_eq_none h.2 ⟨_, _, by rw [List.append_assoc]; exact hp.symm⟩
  · intro h
    cases hq : p.afterMarker? marker with
    | none => rfl
    | some q =>
        obtain ⟨front, hfront, -⟩ := afterMarker?_eq_some hq
        rcases h with h | h
        · rw [afterMarker?, h] at hq
          cases hq
        · exact absurd (h front q.segments hfront) (segments_ne_nil q)

lemma afterMarker?_sublist {p marker q : Path} (h : p.afterMarker? marker = some q) : q <+ p := by
  obtain ⟨front, hfront, -⟩ := afterMarker?_eq_some h
  exact sublist_of_segments_sublist (hfront ▸ List.sublist_append_right _ _)

lemma afterMarker?_ne_self {p marker : Path} : p.afterMarker? marker ≠ some p := by
  intro h
  obtain ⟨front, hfront, -⟩ := afterMarker?_eq_some h
  have hnil := List.self_eq_append_left.1 hfront
  exact segments_ne_nil _ (List.append_eq_nil_iff.1 hnil).2

/-! ## The installation prefix -/

/-- An installation prefix as it is compared with a path: with `/` for each `\`, and without the `/`
at its end. -/
def prefixRoot (head : Path) : Path :=
  Text.trimEnd (· == '/') (unified head)

/-- What follows an installation prefix is nothing, or starts with a `/`. -/
lemma afterPrefix?_eq_some {p head rest : Path} :
    p.afterPrefix? head = some rest ↔ prefixRoot head ≠ [] ∧ p = prefixRoot head ++ rest
      ∧ (rest = [] ∨ ∃ below, rest = '/' :: below) := by
  rw [afterPrefix?]
  split
  · next h => simp [prefixRoot, List.isEmpty_iff.1 h]
  · next h =>
    rw [Option.filter_eq_some_iff, List.isPrefixOf?_eq_some_iff_append_eq, eq_comm]
    simp [prefixRoot, Text.startsWith, List.head?_eq_some_iff, ne_eq, List.isEmpty_iff.not.1 h]

/-- An installation prefix is not found when it is blank, or when its segments are not the first
ones. -/
lemma afterPrefix?_eq_none {p head : Path} :
    p.afterPrefix? head = none
      ↔ prefixRoot head = [] ∨ ¬ (prefixRoot head).segments <+: p.segments := by
  constructor
  · intro h
    rw [or_iff_not_imp_left]
    rintro hhead ⟨rest, hrest⟩
    -- either way the prefix is found, with nothing or with the rest behind it
    by_cases hnil : rest = []
    · rw [hnil, List.append_nil] at hrest
      have hsome : p.afterPrefix? head = some [] :=
        afterPrefix?_eq_some.2 ⟨hhead, by simp [segments_injective hrest], Or.inl rfl⟩
      rw [h] at hsome
      cases hsome
    · have hp : p = prefixRoot head ++ '/' :: ofSegments rest := by
        rw [← ofSegments_segments p, ← hrest, ofSegments_append (segments_ne_nil _) hnil,
          ofSegments_segments]
      have hsome : p.afterPrefix? head = some ('/' :: ofSegments rest) :=
        afterPrefix?_eq_some.2 ⟨hhead, hp, Or.inr ⟨_, rfl⟩⟩
      rw [h] at hsome
      cases hsome
  · intro h
    cases hq : p.afterPrefix? head with
    | none => rfl
    | some q =>
        obtain ⟨hhead, hp, hq⟩ := afterPrefix?_eq_some.1 hq
        refine absurd ?_ (h.resolve_left hhead)
        rcases hq with rfl | ⟨below, rfl⟩
        · rw [hp, List.append_nil]
        · rw [hp, segments_append_slash]
          exact List.prefix_append _ _

lemma afterPrefix?_sublist {p head q : Path} (h : p.afterPrefix? head = some q) : q <+ p := by
  obtain ⟨-, hp, -⟩ := afterPrefix?_eq_some.1 h
  rw [hp]
  exact List.sublist_append_right _ _

lemma afterPrefix?_ne_self {p head : Path} : p.afterPrefix? head ≠ some p := by
  intro h
  obtain ⟨hhead, hp, -⟩ := afterPrefix?_eq_some.1 h
  exact hhead (List.self_eq_append_left.1 hp)

/-! ## Cleaning -/

/-- No segment is empty or a single dot. -/
def IsClean (p : Path) : Prop :=
  ∀ s ∈ p.segments, s ≠ [] ∧ s ≠ ['.']

lemma clean_sublist (p : Path) : p.clean <+ p := by
  conv_rhs => rw [← ofSegments_segments p]
  exact ofSegments_sublist_of_sublist List.filter_sublist

/-- What is left after cleaning has the segments that say something. -/
lemma segments_clean {p : Path} (h : p.clean ≠ []) :
    p.clean.segments = p.segments.filter fun s => !s.isEmpty && s != ['.'] := by
  refine segments_ofSegments (fun s hs => slash_not_mem (List.mem_filter.1 hs).1) ?_
  intro hnil
  rw [clean, hnil] at h
  exact h rfl

/-- Cleaning gives a clean path, if anything is left. -/
lemma isClean_clean {p : Path} (h : p.clean ≠ []) : p.clean.IsClean := by
  intro s hs
  rw [segments_clean h, List.mem_filter] at hs
  simpa using hs.2

/-- Cleaning leaves exactly the clean paths as they are. -/
lemma clean_eq_self_iff {p : Path} (h : p ≠ []) : p.clean = p ↔ p.IsClean := by
  constructor
  · intro hclean
    rw [← hclean] at h ⊢
    exact isClean_clean h
  · intro hclean
    rw [clean, List.filter_eq_self.2 fun s hs => by simpa using hclean s hs, ofSegments_segments]

end Path

end InstallAudit
