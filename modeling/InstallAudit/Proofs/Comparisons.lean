import InstallAudit.Proofs.Verdict

/-!
# Reports side by side

A reconciliation does not treat its two manifests alike.  The policy looks at what is installed, and only
what is absent can be exempted.  So the report with the manifests in each other's place is not the same
report read backwards, unless nothing may be missing.

* `Report.Mirrors` — how a report relates to the one with the manifests in each other's place.
* **`reconcile_mirrors`** — the two reports of a pair of manifests are related in this way.
-/

namespace InstallAudit

/-- **A report and the one with the manifests in each other's place.** -/
structure Report.Mirrors (o : BuildOptions) (r back : Report) : Prop where
  generated : r.generated = back.reference
  reference : r.reference = back.generated
  /-- What is extra in one report is missing or exempted in the other one, and not both. -/
  extra : r.extra = back.missing.union back.exempted
  disjoint : ∀ p, ¬(p ∈ back.missing ∧ p ∈ back.exempted)
  /-- If the binding is built, nothing is exempted and the differences change places. -/
  exact : o.switches.bindings = true →
    r.missing = back.extra ∧ r.extra = back.missing ∧ r.exempted = .empty ∧ back.exempted = .empty
  /-- What is absent is neither extra nor to blame for anything. -/
  absent : ∀ p, p ∈ r.missing ∨ p ∈ r.exempted → p ∉ r.extra ∧ ∀ v ∈ r.violations, p ∉ v.paths

section

variable {G R : Manifest} {o : BuildOptions}

/-- Only what is installed can break a rule. -/
lemma mem_of_mem_violation {v : Violation} {p : Path} (hv : v ∈ (reconcile G R o).violations)
    (hp : p ∈ v.paths) : p ∈ G := by
  rw [reconcile, violations_policy] at hv
  obtain ⟨rule, -, rfl⟩ := List.mem_map.1 hv
  exact List.mem_of_mem_filter hp

lemma not_exempts (built : o.switches.bindings = true) (p : Path) : ¬o.Exempts p := by
  rintro ⟨off, -⟩
  rw [built] at off
  cases off

lemma exempted_eq_empty (built : o.switches.bindings = true) :
    (reconcile G R o).exempted = .empty := by
  refine Manifest.eq_empty_iff.2 fun p hp => ?_
  rw [mem_exempted] at hp
  exact not_exempts built p hp.2

/-- If nothing may be missing, what is missing is extra the other way round. -/
lemma missing_eq_extra (built : o.switches.bindings = true) :
    (reconcile G R o).missing = (reconcile R G o).extra := by
  refine Manifest.ext_mem fun p => ?_
  rw [mem_missing, mem_extra]
  exact and_iff_left (not_exempts built p)

lemma extra_eq_union :
    (reconcile G R o).extra = (reconcile R G o).missing.union (reconcile R G o).exempted := by
  rw [union_missing_exempted, reconcile]

/-- What is absent is not installed. -/
lemma not_mem_of_absent {p : Path}
    (h : p ∈ (reconcile G R o).missing ∨ p ∈ (reconcile G R o).exempted) : p ∉ G := by
  rw [mem_missing, mem_exempted] at h
  rcases h with h | h
  · exact h.1.2
  · exact h.1.2

end

/-- **Reports mirror each other.**  With the manifests in each other's place the summaries change places,
and what was extra is now missing or exempted.  This holds in both directions, so with the binding the
differences change places as well. -/
theorem reconcile_mirrors (A B : Manifest) (o : BuildOptions) :
    (reconcile A B o).Mirrors o (reconcile B A o) where
  generated := rfl
  reference := rfl
  extra := extra_eq_union
  disjoint p := by
    rw [mem_missing, mem_exempted]
    tauto
  exact built := by
    refine ⟨missing_eq_extra built, ?_, exempted_eq_empty built, exempted_eq_empty built⟩
    exact (missing_eq_extra built).symm
  absent p hp := by
    have hA : p ∉ A := not_mem_of_absent hp
    refine ⟨fun hextra => ?_, fun v hv hpath => hA (mem_of_mem_violation hv hpath)⟩
    rw [mem_extra] at hextra
    exact hA hextra.1

/-- Without the binding, a module is exempted where it is absent and extra where it is installed. -/
example :
    let o : BuildOptions := { switches := { defaultSwitches with bindings := false } }
    let A : Manifest := .ofList ["bin/tool".toList, "python/foo.py".toList]
    let B : Manifest := .ofList ["bin/other".toList]
    (reconcile A B o).extra = A ∧ (reconcile B A o).missing = .ofList ["bin/tool".toList]
      ∧ (reconcile B A o).exempted = .ofList ["python/foo.py".toList]
      ∧ (reconcile A B o).missing = B := by
  decide

end InstallAudit
