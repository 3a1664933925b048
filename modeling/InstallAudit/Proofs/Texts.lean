import Mathlib.Data.List.DropRight
import Mathlib.Data.List.Flatten
import Mathlib.Data.List.Infix
import Mathlib.Data.List.Perm.Subperm
import Mathlib.Data.List.TakeWhile
import InstallAudit.Text.Search

/-!
# Trimming, searching and dividing texts

What the functions on texts compute, in terms of what is in front of, inside and behind a text.

* `trim_sublist`, `trim_eq_self_iff` — trimming takes blanks away at the ends and does nothing else;
  `trim_append_of_blank`, `trim_of_blank_append`, it takes all of them.  `trimBoth_eq_iff`, this is
  so for any class of characters.
* `contains_iff_infix`, `afterFirst?_eq_some`, `afterFirst?_eq_none` — searching finds an occurrence
  if there is one, and the first one.
* `not_mem_of_mem_splitOn` — the parts of a divided text.
* `splitOn_lines` — dividing a text into lines undoes writing lines below each other.
* `totalLength` — how many characters several texts have; `totalLength_splitOn_withoutMark_lt`, a
  byte order mark in front is missing from the lines.
-/

namespace InstallAudit

open scoped List

namespace Text

/-! ## Trimming -/

lemma trimEnd_sublist (drop : Char → Bool) (t : Text) : trimEnd drop t <+ t := by
  have h := (t.reverse.dropWhile_sublist drop).reverse
  rwa [List.reverse_reverse] at h

lemma trimBoth_sublist (drop : Char → Bool) (t : Text) : trimBoth drop t <+ t :=
  (trimEnd_sublist drop _).trans (t.dropWhile_sublist drop)

/-- Trimming leaves characters out and puts none in. -/
lemma trim_sublist (t : Text) : t.trim <+ t :=
  trimBoth_sublist isBlank t

lemma dropWhile_eq_self_iff (drop : Char → Bool) (t : Text) :
    t.dropWhile drop = t ↔ ∀ c ∈ t.head?, drop c = false := by
  cases t with
  | nil => simp
  | cons c t =>
      rw [List.dropWhile_cons]
      cases hc : drop c with
      | false => simp [hc]
      | true =>
          have hne : t.dropWhile drop ≠ c :: t := fun h => by
            have hlength := (t.dropWhile_sublist drop).length_le
            rw [h, List.length_cons] at hlength
            omega
          simp [hc, hne]

lemma trimEnd_eq_self_iff (drop : Char → Bool) (t : Text) :
    trimEnd drop t = t ↔ ∀ c ∈ t.getLast?, drop c = false := by
  rw [trimEnd, ← List.head?_reverse, ← dropWhile_eq_self_iff, ← List.reverse_inj,
    List.reverse_reverse]

/-- Trimming leaves a text as it is when neither end has anything to be taken away. -/
lemma trimBoth_eq_self_iff (drop : Char → Bool) (t : Text) :
    trimBoth drop t = t
      ↔ (∀ c ∈ t.head?, drop c = false) ∧ ∀ c ∈ t.getLast?, drop c = false := by
  rw [← dropWhile_eq_self_iff, ← trimEnd_eq_self_iff, trimBoth]
  constructor
  · intro h
    have hfront : t.dropWhile drop = t := by
      refine (t.dropWhile_sublist drop).antisymm ?_
      conv_lhs => rw [← h]
      exact trimEnd_sublist drop _
    rw [hfront] at h
    exact ⟨hfront, h⟩
  · rintro ⟨hfront, hback⟩
    rw [hfront, hback]

/-- Trimming leaves exactly the texts without a blank at either end as they are. -/
lemma trim_eq_self_iff (t : Text) :
    t.trim = t ↔ (∀ c ∈ t.head?, isBlank c = false) ∧ ∀ c ∈ t.getLast?, isBlank c = false :=
  trimBoth_eq_self_iff isBlank t

lemma trimBoth_append_of_all {drop : Char → Bool} {t right : Text}
    (all : ∀ c ∈ right, drop c = true) : trimBoth drop (t ++ right) = trimBoth drop t := by
  have hright : right.reverse.dropWhile drop = [] :=
    List.dropWhile_eq_nil_iff.2 fun c hc => all c (List.mem_reverse.1 hc)
  rw [trimBoth, trimBoth, List.dropWhile_append]
  split
  · next h =>
    rw [List.isEmpty_iff.1 h, List.dropWhile_eq_nil_iff.2 all]
  · rw [trimEnd, trimEnd, List.reverse_append, List.dropWhile_append, hright]
    rfl

lemma trimBoth_of_all_append {drop : Char → Bool} {left t : Text}
    (all : ∀ c ∈ left, drop c = true) : trimBoth drop (left ++ t) = trimBoth drop t := by
  rw [trimBoth, trimBoth, List.dropWhile_append_of_pos all]

lemma exists_eq_trimBoth (drop : Char → Bool) (t : Text) :
    ∃ left right, t = left ++ (trimBoth drop t ++ right) ∧ (∀ c ∈ left, drop c = true)
      ∧ ∀ c ∈ right, drop c = true := by
  have hback : trimBoth drop t ++ (t.dropWhile drop).rtakeWhile drop = t.dropWhile drop :=
    List.rdropWhile_append_rtakeWhile
  refine ⟨t.takeWhile drop, (t.dropWhile drop).rtakeWhile drop, ?_,
    fun c hc => List.mem_takeWhile_imp hc, fun c hc => List.mem_rtakeWhile_imp hc⟩
  rw [hback, List.takeWhile_append_dropWhile]

/-- **Trimming.**  It takes characters of the class away at both ends, and then neither end has one. -/
lemma trimBoth_eq_iff {drop : Char → Bool} {t u : Text} :
    trimBoth drop t = u
      ↔ (∃ left right, t = left ++ (u ++ right) ∧ (∀ c ∈ left, drop c = true)
          ∧ ∀ c ∈ right, drop c = true)
        ∧ (∀ c ∈ u.head?, drop c = false) ∧ ∀ c ∈ u.getLast?, drop c = false := by
  have hparts : ∀ {left right : Text}, (∀ c ∈ left, drop c = true) → (∀ c ∈ right, drop c = true) →
      trimBoth drop (left ++ (u ++ right)) = trimBoth drop u := by
    intro left right hleft hright
    rw [trimBoth_of_all_append hleft, trimBoth_append_of_all hright]
  rw [← trimBoth_eq_self_iff]
  constructor
  · rintro rfl
    obtain ⟨left, right, ht, hleft, hright⟩ := exists_eq_trimBoth drop t
    refine ⟨⟨left, right, ht, hleft, hright⟩, ?_⟩
    conv_rhs => rw [ht]
    exact (hparts hleft hright).symm
  · rintro ⟨⟨left, right, rfl, hleft, hright⟩, hu⟩
    rw [hparts hleft hright, hu]

lemma trimBoth_eq_nil_iff {drop : Char → Bool} {t : Text} :
    trimBoth drop t = [] ↔ ∀ c ∈ t, drop c = true := by
  constructor
  · intro h c hc
    obtain ⟨left, right, ht, hleft, hright⟩ := exists_eq_trimBoth drop t
    rw [ht, h, List.nil_append, List.mem_append] at hc
    exact hc.elim (hleft c) (hright c)
  · intro h
    rw [← List.append_nil t, trimBoth_of_all_append h]
    rfl

/-- Trimming at the end stops at a character that is not of the class. -/
lemma trimEnd_append_cons {drop : Char → Bool} {c : Char} (hc : drop c = false) (s t : Text) :
    trimEnd drop (s ++ c :: t) = s ++ c :: trimEnd drop t := by
  rw [trimEnd, List.reverse_append, List.reverse_cons, List.append_assoc, List.dropWhile_append]
  split
  · next h =>
    rw [trimEnd, List.isEmpty_iff.1 h, List.singleton_append, List.dropWhile_cons_of_neg (by simp [hc])]
    simp
  · simp [trimEnd]

/-- Trimming goes the same way from behind. -/
lemma trimBoth_reverse (drop : Char → Bool) (t : Text) :
    trimBoth drop t.reverse = (trimBoth drop t).reverse := by
  obtain ⟨⟨left, right, ht, hleft, hright⟩, hhead, hlast⟩ := trimBoth_eq_iff.1 (Eq.refl (trimBoth drop t))
  rw [trimBoth_eq_iff, List.head?_reverse, List.getLast?_reverse]
  refine ⟨⟨right.reverse, left.reverse, ?_, by simpa using hright, by simpa using hleft⟩, hlast, hhead⟩
  conv_lhs => rw [ht]
  simp

lemma trim_append_of_blank {t right : Text} (blank : ∀ c ∈ right, isBlank c = true) :
    (t ++ right).trim = t.trim :=
  trimBoth_append_of_all blank

lemma trim_of_blank_append {left t : Text} (blank : ∀ c ∈ left, isBlank c = true) :
    (left ++ t).trim = t.trim :=
  trimBoth_of_all_append blank

/-! ## Ends -/

/-- Texts differ when neither of their ends is the end of the other. -/
lemma append_ne_append {x y e e' : Text} (h : ¬e <:+ e') (h' : ¬e' <:+ e) : x ++ e ≠ y ++ e' := by
  intro heq
  rcases List.suffix_or_suffix_of_suffix ⟨x, heq⟩ (List.suffix_append y e') with hsuffix | hsuffix
  · exact h hsuffix
  · exact h' hsuffix

/-! ## Searching -/

lemma contains_iff_infix {needle t : Text} : contains needle t = true ↔ needle <:+: t := by
  induction t with
  | nil => simp [contains]
  | cons c t ih =>
      rw [contains, Bool.or_eq_true, List.isPrefixOf_iff_prefix, ih, List.infix_cons_iff]

/-- What follows the first occurrence follows an occurrence, and no occurrence is further in front. -/
lemma afterFirst?_eq_some {needle t rest : Text} (h : afterFirst? needle t = some rest) :
    ∃ front, t = front ++ (needle ++ rest)
      ∧ ∀ front' rest', t = front' ++ (needle ++ rest') → front.length ≤ front'.length := by
  induction t with
  | nil => exact ⟨[], (List.isPrefixOf?_eq_some_iff_append_eq.1 h).symm, by simp⟩
  | cons c t ih =>
      rw [afterFirst?, Option.or_eq_some_iff] at h
      rcases h with h | ⟨hnone, h⟩
      · exact ⟨[], (List.isPrefixOf?_eq_some_iff_append_eq.1 h).symm, by simp⟩
      · obtain ⟨front, hfront, hfirst⟩ := ih h
        refine ⟨c :: front, by rw [List.cons_append, ← hfront], fun front' rest' ht => ?_⟩
        cases front' with
        | nil =>
            rw [List.nil_append] at ht
            rw [List.isPrefixOf?_eq_some_iff_append_eq.2 ht.symm] at hnone
            cases hnone
        | cons d front' => exact Nat.succ_le_succ (hfirst front' rest' (List.cons.inj ht).2)

/-- Where nothing is found, nothing occurs. -/
lemma afterFirst?_eq_none {needle t : Text} (h : afterFirst? needle t = none) :
    ¬ needle <:+: t := by
  induction t with
  | nil =>
      rw [List.infix_nil]
      rintro rfl
      cases h
  | cons c t ih =>
      rw [afterFirst?, Option.or_eq_none_iff] at h
      rw [List.infix_cons_iff]
      rintro (⟨rest, hrest⟩ | hinfix)
      · rw [List.isPrefixOf?_eq_some_iff_append_eq.2 hrest] at h
        cases h.1
      · exact ih h.2 hinfix

/-! ## Dividing -/

/-- No part of a divided text contains the separator. -/
lemma not_mem_of_mem_splitOn {c : Char} {t part : Text} (h : part ∈ t.splitOn c) : c ∉ part := by
  induction t generalizing part with
  | nil =>
      have hpart : part = [] := by simpa using h
      simp [hpart]
  | cons d t ih =>
      rw [List.splitOn_cons_eq_if_modifyHead] at h
      split at h
      · rcases List.mem_cons.1 h with rfl | h
        · simp
        · exact ih h
      · next hd =>
        obtain ⟨first, rest, hsplit⟩ := List.exists_cons_of_ne_nil (List.splitOn_ne_nil c t)
        rw [hsplit, List.modifyHead_cons] at h
        have hd' : d ≠ c := by simpa using hd
        rcases List.mem_cons.1 h with rfl | h
        · have hfirst : c ∉ first := ih (by rw [hsplit]; exact List.mem_cons_self)
          simp [hfirst, hd'.symm]
        · exact ih (by rw [hsplit]; exact List.mem_cons_of_mem _ h)

/-! ## Lines -/

/-- Lines written below each other are divided into these lines and an empty one behind the last
line feed. -/
lemma splitOn_lines {ls : List Text} (free : ∀ l ∈ ls, '\n' ∉ l) :
    (ls.flatMap fun l => l ++ ['\n']).splitOn '\n' = ls ++ [[]] := by
  induction ls with
  | nil => simp
  | cons l ls ih =>
      rw [List.flatMap_cons, List.append_assoc, List.singleton_append,
        List.splitOn_append_cons_self, ih fun l' hl' => free l' (List.mem_cons_of_mem _ hl'),
        List.splitOn_eq_singleton (free l List.mem_cons_self)]
      simp

/-- A text without a byte order mark in front is left as it is. -/
lemma withoutMark_eq_self {t : Text} (h : t.head? ≠ some '\uFEFF') : t.withoutMark = t := by
  rw [withoutMark.eq_def]
  split
  · exact absurd rfl h
  · rfl

/-- A mark stands at the front of a text or nowhere that matters. -/
lemma withoutMark_append {s t : Text} :
    (s ++ '\n' :: t).withoutMark = s.withoutMark ++ '\n' :: t := by
  by_cases hs : s.head? = some '\uFEFF'
  · obtain ⟨rest, rfl⟩ := List.head?_eq_some_iff.1 hs
    rfl
  · have hst : (s ++ '\n' :: t).head? ≠ some '\uFEFF' := by
      cases s with
      | nil => simp
      | cons c s => exact hs
    rw [withoutMark_eq_self hs, withoutMark_eq_self hst]

/-! ## Numbers of characters -/

/-- The number of characters of several texts. -/
def totalLength (ls : List Text) : Nat :=
  ls.flatten.length

@[simp] lemma totalLength_cons (l : Text) (ls : List Text) :
    totalLength (l :: ls) = l.length + totalLength ls := by
  rw [totalLength, List.flatten_cons, List.length_append, totalLength]

lemma totalLength_append (ls ls' : List Text) :
    totalLength (ls ++ ls') = totalLength ls + totalLength ls' := by
  rw [totalLength, List.flatten_append, List.length_append, totalLength, totalLength]

/-- Texts that all occur in a list, none of them listed twice, have no more characters than the
list. -/
lemma totalLength_le_of_subset {ms ls : List Text} (nodup : ms.Nodup) (h : ms ⊆ ls) :
    totalLength ms ≤ totalLength ls := by
  obtain ⟨ms', hperm, hsub⟩ := nodup.subperm h
  calc totalLength ms = totalLength ms' := hperm.flatten.length_eq.symm
    _ ≤ totalLength ls := hsub.flatten.length_le

/-- A character in front of a text that is no separator is one more character in its lines. -/
lemma totalLength_splitOn_cons {c : Char} (hc : c ≠ '\n') (t : Text) :
    totalLength ((c :: t).splitOn '\n') = totalLength (t.splitOn '\n') + 1 := by
  obtain ⟨l, ls, hsplit⟩ := List.exists_cons_of_ne_nil (List.splitOn_ne_nil '\n' t)
  rw [List.splitOn_cons_eq_if_modifyHead, if_neg (by simpa using hc), hsplit,
    List.modifyHead_cons, totalLength_cons, totalLength_cons, List.length_cons]
  omega

/-- A byte order mark in front is missing from the lines. -/
lemma totalLength_splitOn_withoutMark_lt {t : Text} (h : t.head? = some '\uFEFF') :
    totalLength (t.withoutMark.splitOn '\n') < totalLength (t.splitOn '\n') := by
  obtain ⟨rest, rfl⟩ := List.head?_eq_some_iff.1 h
  rw [withoutMark, totalLength_splitOn_cons (by decide)]
  exact Nat.lt_succ_self _

end Text

end InstallAudit
