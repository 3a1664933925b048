import InstallAudit.Proofs.Passes

/-!
# Stacked suffixes

A pass takes one shared suffix off a path.  What stands below it may carry another one, and so on
down to a path without a suffix, so the number of passes that a path needs is the number of suffixes
that are stacked on it.  The number of passes is limited.

* `NormalizeOptions.peeled` — what is left below so many stacked suffixes.
* `isNormal_iterate_pass` — passes lead to a normal path unless something is left to be done below
  as many suffixes.
* **`normalize_normalize_iff`** — a second normalization changes nothing exactly when nothing is
  left to be done below the sixteenth suffix.
* `normalize_seventeen_suffixes` — a path on which a second normalization does change something.
* `isNormal_normalize_of_count_dot` — fewer dots than there may be passes are always few enough.
-/

namespace InstallAudit

namespace NormalizeOptions

open InstallAudit.Path

/-- What is left below so many stacked suffixes, if there are so many. -/
def peeled (o : NormalizeOptions) : Nat → Path → Option Path
  | 0, p => some p
  | n + 1, p => (o.peel? p).bind (o.peeled n)

/-! ## Peeling and passes

Once the directories are generic they stay so, since peeling shortens a path at its end.  From then
on a pass is a peeling, until nothing can be peeled; only then does a name `lib64` become `lib`.
-/

lemma lib64_not_mem_dirs_of_peel? {o : NormalizeOptions} {p q : Path}
    (h : o.peel? p = some q) (hp : "lib64".toList ∉ p.dirs) : "lib64".toList ∉ q.dirs := by
  obtain ⟨t, rfl⟩ := prefix_of_peel? h
  exact fun hq => hp ((dirs_prefix_dirs q t).subset hq)

/-- Where something can be peeled off, the name is no `lib64`. -/
lemma generic_eq_self_of_peel? {o : NormalizeOptions} {p q : Path} (h : o.peel? p = some q)
    (hp : "lib64".toList ∉ p.dirs) : p.generic = p := by
  refine generic_eq_self ?_
  rw [segments_eq, List.mem_append, List.mem_singleton]
  rintro (hd | hname)
  · exact hp hd
  · have hnone : o.peel? p = none := peel?_eq_none.2 fun a ha stem hstem =>
      absurd ⟨stem, (hname.trans hstem).symm⟩ (not_suffix_lib64 a ha)
    rw [hnone] at h
    cases h

/-- A path from which nothing can be peeled off is normal as soon as it is generic. -/
lemma isNormal_generic_of_peel? {o : NormalizeOptions} {p : Path} (h : o.peel? p = none) :
    p.generic.IsNormal := by
  refine ⟨p.lib64_not_mem_generic, fun a ha stem hstem => ?_⟩
  rw [name_generic, genericDir] at hstem
  split at hstem
  · exact absurd ⟨stem, hstem.symm⟩ (not_suffix_lib a ha)
  · exact peel?_eq_none.1 h a ha stem hstem

lemma pass_of_peel? {o : NormalizeOptions} {p q : Path} (h : o.peel? p = some q)
    (hp : "lib64".toList ∉ p.dirs) : o.normalizer.pass p = q := by
  rw [pass_eq, generic_eq_self_of_peel? h hp, h, Option.getD_some]

/-- Where nothing can be peeled off, the first pass makes the name generic and the passes behind it
rest. -/
lemma iterate_pass_of_peel?_eq_none {o : NormalizeOptions} (n : Nat) {p : Path}
    (h : o.peel? p = none) : o.normalizer.pass^[n + 1] p = p.generic := by
  have hnormal := isNormal_generic_of_peel? h
  have hrest : o.normalizer.pass p.generic = p.generic := (o.pass_eq_self_iff _).2 hnormal
  rw [Function.iterate_succ_apply, pass_eq, peel?_eq_none.2 hnormal.bare, Option.getD_none,
    Function.iterate_fixed hrest]

/-- **Passes and stacked suffixes.**  By induction on the passes: each takes one suffix off as long
as there is one, and rests from then on. -/
lemma isNormal_iterate_pass {o : NormalizeOptions} (n : Nat) {p : Path}
    (hp : "lib64".toList ∉ p.dirs) :
    (o.normalizer.pass^[n] p).IsNormal ↔ ∀ rest, o.peeled n p = some rest → rest.IsNormal := by
  induction n generalizing p with
  | zero => simp [peeled]
  | succ n ih =>
      cases h : o.peel? p with
      | some q =>
          rw [Function.iterate_succ_apply, pass_of_peel? h hp, peeled, h, Option.bind_some]
          exact ih (lib64_not_mem_dirs_of_peel? h hp)
      | none =>
          rw [iterate_pass_of_peel?_eq_none n h, peeled, h]
          simp [isNormal_generic_of_peel? h]

lemma isNormal_normalize_iff (o : NormalizeOptions) (p : Path) :
    (o.normalizer.normalize p).IsNormal
      ↔ ∀ rest, o.peeled Normalizer.passLimit p.generic = some rest → rest.IsNormal := by
  rw [← normalize_generic, Normalizer.normalize_eq_iterate]
  exact isNormal_iterate_pass _ p.lib64_not_mem_dirs_generic

/-! ## Normalizing twice -/

/-- **When a second normalization changes nothing.**  Exactly when the first one has reached a normal
path, and that is exactly when nothing is left to be done below the sixteenth suffix. -/
theorem normalize_normalize_iff (o : NormalizeOptions) (p : Path) :
    (o.normalizer.normalize (o.normalizer.normalize p) = o.normalizer.normalize p
        ↔ (o.normalizer.normalize p).IsNormal)
      ∧ ((o.normalizer.normalize p).IsNormal
        ↔ ∀ rest, o.peeled Normalizer.passLimit p.generic = some rest → rest.IsNormal) :=
  ⟨o.normalize_eq_self_iff _, o.isNormal_normalize_iff p⟩

/-- A file with seventeen suffixes keeps one of them, and loses it the second time. -/
theorem normalize_seventeen_suffixes :
    let n := NormalizeOptions.normalizer {}
    let p := "lib/a".toList ++ (List.replicate 17 ".so".toList).flatten
    n.normalize p = "lib/a.so".toList ∧ n.normalize (n.normalize p) = "lib/a".toList := by
  decide

/-! ## Paths with few dots -/

/-- Every suffix that is peeled off takes a dot with it. -/
lemma count_dot_of_peeled {o : NormalizeOptions} {n : Nat} {p rest : Path}
    (h : o.peeled n p = some rest) : n + rest.count '.' ≤ p.count '.' := by
  induction n generalizing p with
  | zero =>
      rw [peeled, Option.some.injEq] at h
      rw [h, Nat.zero_add]
  | succ n ih =>
      rw [peeled, Option.bind_eq_some_iff] at h
      obtain ⟨q, hq, hrest⟩ := h
      obtain ⟨a, ha, t, rfl, -⟩ := exists_of_peel? hq
      have hdot : 0 < a.count '.' := List.count_pos_iff.2 (dot_mem_sharedSuffix a ha)
      have hrest := ih hrest
      rw [List.count_append, List.count_append]
      omega

/-- With fewer dots than there may be passes, a path cannot carry too many suffixes. -/
theorem isNormal_normalize_of_count_dot (o : NormalizeOptions) {p : Path}
    (h : p.count '.' < Normalizer.passLimit) : (o.normalizer.normalize p).IsNormal := by
  refine (o.isNormal_normalize_iff p).2 fun rest hrest => absurd (count_dot_of_peeled hrest) ?_
  have hcount := p.generic_sublist.count_le '.'
  omega

end NormalizeOptions

end InstallAudit
