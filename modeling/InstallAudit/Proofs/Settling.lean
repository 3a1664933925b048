import InstallAudit.Proofs.Passes

/-!
# Settling

Normalization repeats a pass until it changes nothing, but not more often than a limit allows.  Without
the limit the loop may run forever: custom rules can go round in a circle or make a path longer and
longer.  The rules of a configuration cannot, since each of their passes makes a path shorter or leaves
it alone.

* `Settles` — how often the loop without a limit changes a path, and where it ends.
* `Settles.iterate_eq_iff`, `Settles.fixed_iff` — the passes up to the end and those behind it.
* `Settles.iterate_iterate_iff` — a path that comes back after some passes has come to its end.
* `exists_settles` — a step that makes paths shorter or leaves them alone comes to an end on every path.
* **`normalize_settles`** — what normalization gives, measured against the loop without a limit.
-/

namespace InstallAudit

/-! ## The loop without a limit -/

/-- Repeating the step on the path `p` until it changes nothing ends: the first `k` steps change
something, and `q`, which they lead to, is left as it is. -/
structure Settles (step : Path → Path) (p : Path) (k : Nat) (q : Path) : Prop where
  reaches : step^[k] p = q
  rests : step q = q
  moves : ∀ i < k, step (step^[i] p) ≠ step^[i] p

namespace Settles

variable {step : Path → Path} {p q : Path} {k : Nat}

lemma iterate_eq (h : Settles step p k q) {n : Nat} (hn : k ≤ n) : step^[n] p = q := by
  obtain ⟨m, rfl⟩ := Nat.exists_eq_add_of_le' hn
  rw [Function.iterate_add_apply, h.reaches]
  exact Function.iterate_fixed h.rests m

lemma fixed_iff (h : Settles step p k q) {i : Nat} :
    step (step^[i] p) = step^[i] p ↔ k ≤ i := by
  constructor
  · intro hfixed
    by_contra hi
    exact h.moves i (Nat.lt_of_not_le hi) hfixed
  · intro hi
    rw [h.iterate_eq hi]
    exact h.rests

lemma iterate_eq_iff (h : Settles step p k q) {n : Nat} : step^[n] p = q ↔ k ≤ n := by
  constructor
  · intro hn
    rw [← h.fixed_iff, hn]
    exact h.rests
  · exact h.iterate_eq

/-- **No way back.**  Some more steps lead back to a path on the way only when it is the end of the
way. -/
lemma iterate_iterate_iff (h : Settles step p k q) {m n : Nat} (hn : 0 < n) :
    step^[n] (step^[m] p) = step^[m] p ↔ k ≤ m := by
  constructor
  · intro hback
    -- going round often enough leads past the end of the loop
    have hround : step^[n * k + m] p = step^[m] p := by
      rw [Function.iterate_add_apply, Function.iterate_mul]
      exact Function.iterate_fixed hback k
    have hpast : k ≤ n * k + m := by
      have hk : k ≤ n * k := Nat.le_mul_of_pos_left k hn
      omega
    rw [h.iterate_eq hpast] at hround
    exact h.iterate_eq_iff.1 hround.symm
  · intro hm
    rw [h.iterate_eq hm]
    exact Function.iterate_fixed h.rests n

end Settles

/-- **Shrinking steps come to an end.**  By induction on the length of the path: either it is left as it
is, or the step gives a shorter path, on which the loop goes on. -/
lemma exists_settles {step : Path → Path}
    (shrinks : ∀ p, step p = p ∨ (step p).length < p.length) (p : Path) :
    ∃ k q, Settles step p k q := by
  induction hn : p.length using Nat.strong_induction_on generalizing p with
  | _ n ih =>
      by_cases hp : step p = p
      · exact ⟨0, p, rfl, hp, by simp⟩
      · have hshorter : (step p).length < n := hn ▸ (shrinks p).resolve_left hp
        obtain ⟨k, q, h⟩ := ih _ hshorter (step p) rfl
        refine ⟨k + 1, q, h.reaches, h.rests, fun i hi => ?_⟩
        cases i with
        | zero => exact hp
        | succ i => exact h.moves i (Nat.lt_of_succ_lt_succ hi)

/-! ## Normalization -/

namespace Normalizer

variable {n : Normalizer} {p q : Path} {k : Nat}

/-- Whatever the rules are, a path on which they settle is normalized to its end exactly when they do so
within the limit. -/
lemma normalize_eq_iff_of_settles (h : Settles n.pass p k q) : n.normalize p = q ↔ k ≤ passLimit := by
  rw [normalize_eq_iterate]
  exact h.iterate_eq_iff

lemma normalize_normalize_iff_of_settles (h : Settles n.pass p k q) :
    n.normalize (n.normalize p) = n.normalize p ↔ k ≤ passLimit := by
  rw [normalize_eq_iterate, normalize_eq_iterate]
  exact h.iterate_iterate_iff (by decide)

end Normalizer

lemma NormalizeOptions.pass_shrinks (o : NormalizeOptions) (p : Path) :
    o.normalizer.pass p = p ∨ (o.normalizer.pass p).length < p.length := by
  rcases Nat.lt_or_ge (o.normalizer.pass p).length p.length with hlt | hge
  · exact Or.inr hlt
  · exact Or.inl ((o.pass_sublist p).eq_of_length_le hge)

/-- **How the loop over passes settles.**  Stopping early never changes the result, whatever the rules
are.  The rules of a configuration make every path that they change shorter, so without the limit the
loop ends on every path, at the one path on its way that a pass leaves as it is; and normalization leads
there exactly when the limit allows all passes that change something, which is when a second
normalization changes nothing. -/
theorem normalize_settles :
    (∀ (n : Normalizer) (p : Path), n.normalize p = n.pass^[Normalizer.passLimit] p)
      ∧ ∀ (o : NormalizeOptions) (p : Path),
        let n := o.normalizer
        (n.pass p = p ∨ (n.pass p).length < p.length)
          ∧ ∃ k q, Settles n.pass p k q
            ∧ (∀ i, n.pass (n.pass^[i] p) = n.pass^[i] p ↔ n.pass^[i] p = q)
            ∧ (n.normalize p = q ↔ k ≤ Normalizer.passLimit)
            ∧ (k ≤ Normalizer.passLimit ↔ n.normalize (n.normalize p) = n.normalize p) := by
  refine ⟨Normalizer.normalize_eq_iterate, fun o p => ⟨o.pass_shrinks p, ?_⟩⟩
  obtain ⟨k, q, h⟩ := exists_settles o.pass_shrinks p
  refine ⟨k, q, h, fun i => ?_, Normalizer.normalize_eq_iff_of_settles h, ?_⟩
  · rw [h.fixed_iff, h.iterate_eq_iff]
  · exact (Normalizer.normalize_normalize_iff_of_settles h).symm

/-- Rules that exchange two names never settle: every pass changes the path. -/
example :
    let n : Normalizer :=
      ⟨[.rename "a".toList "c".toList, .rename "b".toList "a".toList,
        .rename "c".toList "b".toList]⟩
    n.pass "a/x".toList = "b/x".toList ∧ n.pass "b/x".toList = "a/x".toList
      ∧ n.normalize "a/x".toList = "a/x".toList := by
  decide

end InstallAudit
