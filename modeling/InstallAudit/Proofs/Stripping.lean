import Mathlib.Data.List.TakeWhile
import Mathlib.Tactic.Lemma
import InstallAudit.Normalizer

/-!
# Stripping behind a detached suffix

A rule that strips the suffix of a configuration waits for a rule that detaches a shared suffix.  What has
been detached is remembered for the rules that follow in the same pass and is forgotten at its end, so
rules that strip and have nothing to wait for might as well not be there.  This holds of every list of
rules, in any order, and not only of those that configurations select.

* `Rule.withoutStrips`, `Rule.withoutEarlyStrips` — rules without some of those that strip.
* `Rule.Fires` — one of the rules detaches something when its turn comes.
* `detached_foldl_iff` — what is remembered at the end of a pass: whether a rule has fired.
* `foldl_withoutStrips` — as long as none has fired, rules that strip do nothing.
* **`strips_wait_for_detaching`** — a suffix is only stripped behind one that was detached in the same pass.
-/

namespace InstallAudit

namespace Rule

/-! ## Kinds of rules -/

def isDetach : Rule → Bool
  | detach _ => true
  | _ => false

def isStrip : Rule → Bool
  | strip _ _ => true
  | _ => false

/-- The rules without those that strip. -/
def withoutStrips (rules : List Rule) : List Rule :=
  rules.filter fun r => !r.isStrip

/-- The rules without those that strip and have no rule in front of them that detaches. -/
def withoutEarlyStrips (rules : List Rule) : List Rule :=
  withoutStrips (rules.takeWhile fun r => !r.isDetach) ++ rules.dropWhile fun r => !r.isDetach

/-- One of the rules detaches a suffix when its turn comes. -/
def Fires (rules : List Rule) (w : Working) : Prop :=
  ∃ front suffixes back, rules = front ++ detach suffixes :: back
    ∧ ((front.foldl apply w).body.detached? suffixes).isSome = true

variable {rules : List Rule} {w : Working}

/-! ## What is remembered -/

/-- A rule that strips does nothing as long as nothing was detached. -/
lemma apply_strip (h : w.detached = false) (suffix : Text) (scope : SuffixScope) :
    apply w (strip suffix scope) = w := by
  simp [apply, h]

/-- One rule: only detaching is remembered. -/
lemma detached_apply_iff (r : Rule) :
    (apply w r).detached = true
      ↔ w.detached = true ∨ ∃ suffixes, r = detach suffixes ∧ (w.body.detached? suffixes).isSome = true := by
  cases r with
  | rename old new => simp [apply]
  | detach suffixes =>
      cases hrest : w.body.detached? suffixes <;> simp [apply, hrest]
  | strip suffix scope =>
      rw [apply]
      split <;> simp

lemma fires_cons_iff {r : Rule} :
    Fires (r :: rules) w
      ↔ (∃ suffixes, r = detach suffixes ∧ (w.body.detached? suffixes).isSome = true)
        ∨ Fires rules (apply w r) := by
  constructor
  · rintro ⟨front, suffixes, back, hrules, hsome⟩
    cases front with
    | nil =>
        obtain ⟨rfl, -⟩ := List.cons.inj hrules
        exact Or.inl ⟨suffixes, rfl, hsome⟩
    | cons r' front =>
        obtain ⟨rfl, hrest⟩ := List.cons.inj hrules
        exact Or.inr ⟨front, suffixes, back, hrest, hsome⟩
  · rintro (⟨suffixes, rfl, hsome⟩ | ⟨front, suffixes, back, rfl, hsome⟩)
    · exact ⟨[], suffixes, rules, rfl, hsome⟩
    · exact ⟨r :: front, suffixes, back, rfl, hsome⟩

/-- **What a pass remembers.**  A suffix counts as detached if it did at the start or a rule has fired. -/
lemma detached_foldl_iff :
    (rules.foldl apply w).detached = true ↔ w.detached = true ∨ Fires rules w := by
  induction rules generalizing w with
  | nil => simp [Fires]
  | cons r rules ih => rw [List.foldl_cons, ih, detached_apply_iff, fires_cons_iff, or_assoc]

lemma fires_iff {p : Path} : Fires rules ⟨p, false⟩ ↔ (rules.foldl apply ⟨p, false⟩).detached = true := by
  rw [detached_foldl_iff]
  simp

/-! ## Rules that do nothing -/

/-- **Nothing to wait for.**  If nothing has been detached in the end, then the rules that strip did nothing
on the way. -/
lemma foldl_withoutStrips (h : (rules.foldl apply w).detached = false) :
    (withoutStrips rules).foldl apply w = rules.foldl apply w := by
  induction rules generalizing w with
  | nil => rfl
  | cons r rules ih =>
      have hrest := ih h
      cases r with
      | rename old new => exact hrest
      | detach suffixes => exact hrest
      | strip suffix scope =>
          -- what is remembered is never forgotten, so nothing was detached at the start
          have hw : w.detached = false := by
            rw [← Bool.not_eq_true, detached_foldl_iff, not_or] at h
            exact Bool.eq_false_iff.2 h.1
          rw [apply_strip hw] at hrest
          rw [List.foldl_cons, apply_strip hw]
          exact hrest

/-- Rules that do not detach do not fire. -/
lemma not_fires_takeWhile : ¬Fires (rules.takeWhile fun r => !r.isDetach) w := by
  rintro ⟨front, suffixes, back, hrules, -⟩
  have hmem : detach suffixes ∈ rules.takeWhile fun r => !r.isDetach := by
    rw [hrules]
    simp
  have hnot := List.mem_takeWhile_imp hmem
  cases hnot

lemma foldl_withoutEarlyStrips (h : w.detached = false) :
    (withoutEarlyStrips rules).foldl apply w = rules.foldl apply w := by
  have hfront : ((rules.takeWhile fun r => !r.isDetach).foldl apply w).detached = false := by
    rw [← Bool.not_eq_true, detached_foldl_iff, h]
    simp [not_fires_takeWhile]
  rw [withoutEarlyStrips, List.foldl_append, foldl_withoutStrips hfront, ← List.foldl_append,
    List.takeWhile_append_dropWhile]

end Rule

/-! ## Passes -/

namespace Normalizer

open InstallAudit.Rule

lemma pass_withoutEarlyStrips (rules : List Rule) : pass ⟨withoutEarlyStrips rules⟩ = pass ⟨rules⟩ := by
  funext p
  rw [pass, pass, foldl_withoutEarlyStrips rfl]

end Normalizer

open InstallAudit.Rule

/-- **Stripping waits for detaching.**  Rules that strip and have no rule in front of them that detaches may
be left out, and no path gets another normal form.  In a pass in which no rule fires, all rules that strip
may be left out.  A rule that strips something has a rule in front of it that has fired in the same
pass. -/
theorem strips_wait_for_detaching (rules : List Rule) (p : Path) :
    Normalizer.normalize ⟨withoutEarlyStrips rules⟩ p = Normalizer.normalize ⟨rules⟩ p
      ∧ (¬Fires rules ⟨p, false⟩ →
        Normalizer.pass ⟨withoutStrips rules⟩ p = Normalizer.pass ⟨rules⟩ p)
      ∧ ∀ front suffix scope back, rules = front ++ strip suffix scope :: back →
        apply (front.foldl apply ⟨p, false⟩) (strip suffix scope) ≠ front.foldl apply ⟨p, false⟩ →
        Fires front ⟨p, false⟩ := by
  refine ⟨?_, fun h => ?_, fun front suffix scope back _ hstrip => ?_⟩
  · rw [Normalizer.normalize, Normalizer.normalize, Normalizer.pass_withoutEarlyStrips]
  · rw [fires_iff, Bool.not_eq_true] at h
    rw [Normalizer.pass, Normalizer.pass, foldl_withoutStrips h]
  · rw [fires_iff, ← Bool.not_eq_false]
    exact fun hw => hstrip (apply_strip hw suffix scope)

/-- The first rule of this list has nothing to wait for, and the last one waits for the third.  Without a
shared suffix, `z_d` keeps its name; with one it loses as many suffixes as there are shared ones. -/
theorem strips_wait_for_detaching_debug_build :
    let d : Rule := .strip "_d".toList .anywhere
    let front : List Rule := [d, .rename "lib64".toList "lib".toList, .detach [".so".toList]]
    let rules := front ++ [d]
    let archive : Path := "lib64/z_d".toList
    let library : Path := "lib64/z_d_d.so".toList
    withoutEarlyStrips rules = front.drop 1 ++ [d]
      ∧ Normalizer.normalize ⟨withoutEarlyStrips rules⟩ library = Normalizer.normalize ⟨rules⟩ library
      ∧ Normalizer.normalize ⟨rules⟩ library = "lib/z_d".toList
      ∧ (¬Fires rules ⟨archive, false⟩
        ∧ Normalizer.pass ⟨withoutStrips rules⟩ archive = Normalizer.pass ⟨rules⟩ archive
        ∧ Normalizer.pass ⟨rules⟩ archive = "lib/z_d".toList)
      ∧ apply (front.foldl apply ⟨library, false⟩) d ≠ front.foldl apply ⟨library, false⟩
        ∧ Fires front ⟨library, false⟩ := by
  intro d front rules archive library
  obtain ⟨hnormal, -, hfires⟩ := strips_wait_for_detaching rules library
  have hstill : ¬Fires rules ⟨archive, false⟩ := mt fires_iff.1 (by decide)
  have hstrips : apply (front.foldl apply ⟨library, false⟩) d ≠ front.foldl apply ⟨library, false⟩ := by
    decide
  refine ⟨by decide, hnormal, by decide, ⟨hstill, ?_, by decide⟩, hstrips, ?_⟩
  · exact (strips_wait_for_detaching rules archive).2.1 hstill
  · exact hfires front _ _ [] rfl hstrips

end InstallAudit
