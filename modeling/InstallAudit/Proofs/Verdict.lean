import InstallAudit.Proofs.Manifests
import InstallAudit.Proofs.Placement

/-!
# What a report says

A reconciliation takes differences of manifests, divides one of them by the exemptions, walks over
the rules of the build, and folds everything into one truth value.  This module says what the report
means in terms of the two manifests and the options of the build alone.

* `PolicyRule.Bans`, `BuildOptions.bans`, `BuildOptions.Activates` — what each rule forbids, the rules
  that forbid something in the order of reports, and when a build has them.
* `BuildOptions.Exempts` — what may be missing.
* `policy_eq`, `violations_eq` — the rules of a build and their violations, in these terms.
* `Report.Faithful` — the meaning of a report, part by part.
* **`reconcile_faithful`** — the report of a reconciliation is faithful.
-/

namespace InstallAudit

/-! ## Rules in terms of paths -/

/-- The paths that must not be installed under a rule. -/
def PolicyRule.Bans : PolicyRule → Path → Prop
  | noPkgConfig, p => p.Carries ".pc".toList
  | noDocs dir, p => p.Below dir
  | noExamples dir, p => p.Below dir
  | noTools dir, p => p.Below dir
  | noStaticArchives, p => p.Carries ".a".toList
  | exemptBinding _, _ => False

instance (rule : PolicyRule) (p : Path) : Decidable (rule.Bans p) :=
  match rule with
  | .noPkgConfig => inferInstanceAs (Decidable (p.Carries _))
  | .noDocs dir => inferInstanceAs (Decidable (p.Below dir))
  | .noExamples dir => inferInstanceAs (Decidable (p.Below dir))
  | .noTools dir => inferInstanceAs (Decidable (p.Below dir))
  | .noStaticArchives => inferInstanceAs (Decidable (p.Carries _))
  | .exemptBinding _ => inferInstanceAs (Decidable False)

lemma forbids_iff_bans {rule : PolicyRule} {p : Path} : rule.forbids p = true ↔ rule.Bans p := by
  cases rule with
  | noPkgConfig => exact Path.hasExtension_iff_carries
  | noDocs dir => exact Path.isUnder_iff_below
  | noExamples dir => exact Path.isUnder_iff_below
  | noTools dir => exact Path.isUnder_iff_below
  | noStaticArchives => exact Path.hasExtension_iff_carries
  | exemptBinding dir => exact iff_of_false Bool.false_ne_true id

namespace BuildOptions

/-- The rules that ban something, in the order of reports. -/
def bans (o : BuildOptions) : List PolicyRule :=
  [.noPkgConfig, .noDocs o.layout.docs, .noExamples o.layout.examples, .noTools o.layout.tools,
   .noStaticArchives]

/-- Whether the switches of a build turn a rule on. -/
def Activates (o : BuildOptions) : PolicyRule → Prop
  | .noPkgConfig => o.switches.pkgConfig = false
  | .noDocs _ => o.switches.docs = false
  | .noExamples _ => o.switches.examples = false
  | .noTools _ => o.switches.tools = false
  | .noStaticArchives => o.switches.sharedLibs = true
  | .exemptBinding _ => o.switches.bindings = false

instance (o : BuildOptions) (rule : PolicyRule) : Decidable (o.Activates rule) :=
  match rule with
  | .noPkgConfig => inferInstanceAs (Decidable (_ = _))
  | .noDocs _ => inferInstanceAs (Decidable (_ = _))
  | .noExamples _ => inferInstanceAs (Decidable (_ = _))
  | .noTools _ => inferInstanceAs (Decidable (_ = _))
  | .noStaticArchives => inferInstanceAs (Decidable (_ = _))
  | .exemptBinding _ => inferInstanceAs (Decidable (_ = _))

/-- The paths that may be missing: without the binding, what belongs in its directory. -/
def Exempts (o : BuildOptions) (p : Path) : Prop :=
  o.switches.bindings = false ∧ p.Below o.layout.binding

/-- The rules of a build are those that its switches turn on. -/
lemma policy_eq (o : BuildOptions) :
    o.policy = (o.bans ++ [PolicyRule.exemptBinding o.layout.binding]).filter (o.Activates ·) := by
  obtain ⟨⟨sharedLibs, pkgConfig, docs, examples, tools, bindings⟩, layout⟩ := o
  cases sharedLibs <;> cases pkgConfig <;> cases docs <;> cases examples <;> cases tools <;>
    cases bindings <;> rfl

lemma mem_policy {o : BuildOptions} {rule : PolicyRule} :
    rule ∈ o.policy
      ↔ (rule ∈ o.bans ∨ rule = .exemptBinding o.layout.binding) ∧ o.Activates rule := by
  rw [policy_eq, List.mem_filter, List.mem_append, List.mem_singleton, decide_eq_true_iff]

lemma exempts?_of_mem_bans {o : BuildOptions} {rule : PolicyRule} (h : rule ∈ o.bans) :
    rule.exempts? = none := by
  simp only [bans, List.mem_cons, List.not_mem_nil, or_false] at h
  rcases h with rfl | rfl | rfl | rfl | rfl <;> rfl

/-- One rule alone exempts something, and it bans nothing. -/
lemma isExempt_iff_exempts {o : BuildOptions} {p : Path} :
    isExempt o.policy p = true ↔ o.Exempts p := by
  rw [isExempt, List.any_eq_true, Exempts]
  constructor
  · rintro ⟨dir, hdir, hunder⟩
    obtain ⟨rule, hrule, hdir⟩ := List.mem_filterMap.1 hdir
    -- the exemption of the binding is the one rule with a directory to exempt
    obtain ⟨hban | rfl, hactive⟩ := mem_policy.1 hrule
    · rw [exempts?_of_mem_bans hban] at hdir
      cases hdir
    · rw [PolicyRule.exempts?, Option.some.injEq] at hdir
      rw [hdir]
      exact ⟨hactive, Path.isUnder_iff_below.1 hunder⟩
  · rintro ⟨hbindings, hbelow⟩
    have hrule : .exemptBinding o.layout.binding ∈ o.policy := mem_policy.2 ⟨Or.inr rfl, hbindings⟩
    exact ⟨o.layout.binding, List.mem_filterMap.2 ⟨_, hrule, rfl⟩, Path.isUnder_iff_below.2 hbelow⟩

end BuildOptions

/-! ## Violations -/

/-- A rule is violated by a manifest that has a path that the rule bans, and the violation lists all
such paths in the order of the manifest. -/
lemma violation?_eq (rule : PolicyRule) (m : Manifest) :
    rule.violation? m
      = if ∃ p ∈ m.toList, rule.Bans p then some ⟨rule, m.toList.filter (rule.Bans ·)⟩
        else none := by
  have hforbids : m.toList.filter rule.forbids = m.toList.filter (rule.Bans ·) :=
    List.filter_congr fun p _ => Bool.eq_iff_iff.2 (by rw [forbids_iff_bans, decide_eq_true_iff])
  rw [PolicyRule.violation?, hforbids]
  split
  · next hnil =>
    refine (if_neg ?_).symm
    rintro ⟨p, hp, hbans⟩
    exact List.filter_eq_nil_iff.1 hnil p hp (decide_eq_true hbans)
  · next hsome =>
    refine (if_pos ?_).symm
    obtain ⟨p, hp⟩ := List.exists_mem_of_ne_nil _ hsome
    obtain ⟨hp, hbans⟩ := List.mem_filter.1 hp
    exact ⟨p, hp, of_decide_eq_true hbans⟩

/-- The violations of a list of rules, each rule at most once and in its place. -/
lemma violations_eq (rules : List PolicyRule) (m : Manifest) :
    violations rules m
      = (rules.filter fun rule => ∃ p ∈ m.toList, rule.Bans p).map fun rule =>
        ⟨rule, m.toList.filter (rule.Bans ·)⟩ := by
  induction rules with
  | nil => rfl
  | cons rule rules ih =>
      rw [violations, List.filterMap_cons, violation?_eq, List.filter_cons]
      rw [violations] at ih
      by_cases h : ∃ p ∈ m.toList, rule.Bans p
      · simp only [h, if_true, decide_true, List.map_cons, ih]
      · simp only [h, if_false, decide_false, Bool.false_eq_true, ih]

/-- The violations of the rules of a build are those of the bans that it activates. -/
lemma violations_policy (o : BuildOptions) (m : Manifest) :
    violations o.policy m
      = (o.bans.filter fun rule => o.Activates rule ∧ ∃ p ∈ m.toList, rule.Bans p).map fun rule =>
        ⟨rule, m.toList.filter (rule.Bans ·)⟩ := by
  have hexempt : ∀ p, ¬PolicyRule.Bans (.exemptBinding o.layout.binding) p := fun _ h => h
  rw [violations_eq, BuildOptions.policy_eq, List.filter_filter, List.filter_append]
  simp [hexempt, Bool.and_comm]

/-! ## Reports -/

/-- **What a report on two manifests means.** -/
structure Report.Faithful (generated reference : Manifest) (o : BuildOptions) (r : Report) :
    Prop where
  /-- Extra is what is installed without being in the reference. -/
  extra : ∀ p, p ∈ r.extra ↔ p ∈ generated ∧ p ∉ reference
  /-- What is in the reference without being installed is either missing or exempted. -/
  absent : ∀ p, p ∈ r.missing ∨ p ∈ r.exempted ↔ p ∈ reference ∧ p ∉ generated
  /-- Nothing is missing and exempted at once. -/
  disjoint : ∀ p, ¬(p ∈ r.missing ∧ p ∈ r.exempted)
  /-- Exempted is what lies below the directory of the binding, if the binding is not built. -/
  exempted : ∀ p, p ∈ r.exempted ↔ (p ∈ reference ∧ p ∉ generated) ∧ o.Exempts p
  /-- The sizes add up. -/
  size : generated.size + r.missing.size + r.exempted.size = reference.size + r.extra.size
  /-- The violations are those of the active bans that some installed path breaks, in the order of
  the bans, each with all installed paths that break it. -/
  violations : r.violations
    = (o.bans.filter fun rule =>
        o.Activates rule ∧ ∃ p ∈ generated.toList, rule.Bans p).map fun rule =>
      ⟨rule, generated.toList.filter (rule.Bans ·)⟩
  /-- The listed paths are in increasing order. -/
  increasing : ∀ v ∈ r.violations, v.paths.Pairwise (· < ·)
  /-- The report passes when everything installed is in the reference, everything absent may be
  missing, and no active ban is broken. -/
  passed : r.passed = true
    ↔ (∀ p ∈ generated, p ∈ reference)
      ∧ (∀ p ∈ reference, p ∉ generated → o.Exempts p)
      ∧ ∀ rule ∈ o.bans, o.Activates rule → ∀ p ∈ generated, ¬rule.Bans p
  /-- The exit status tells whether the report passes. -/
  status : r.status = 0 ↔ r.passed = true

section

variable (G R : Manifest) (o : BuildOptions)

/-- What is in the reference without being installed, and may not be missing. -/
lemma mem_missing (p : Path) :
    p ∈ (reconcile G R o).missing ↔ (p ∈ R ∧ p ∉ G) ∧ ¬o.Exempts p := by
  rw [reconcile, Manifest.mem_filter, Manifest.mem_difference, Bool.not_eq_true',
    Bool.eq_false_iff, ne_eq, BuildOptions.isExempt_iff_exempts]

lemma mem_exempted (p : Path) :
    p ∈ (reconcile G R o).exempted ↔ (p ∈ R ∧ p ∉ G) ∧ o.Exempts p := by
  rw [reconcile, Manifest.mem_filter, Manifest.mem_difference, BuildOptions.isExempt_iff_exempts]

lemma mem_extra (p : Path) : p ∈ (reconcile G R o).extra ↔ p ∈ G ∧ p ∉ R := by
  rw [reconcile, Manifest.mem_difference]

lemma not_mem_missing_exempted (p : Path) :
    ¬(p ∈ (reconcile G R o).missing ∧ p ∈ (reconcile G R o).exempted) := by
  rw [mem_missing, mem_exempted]
  rintro ⟨⟨-, hkept⟩, -, hexempt⟩
  exact hkept hexempt

/-- What is absent is either missing or exempted. -/
lemma union_missing_exempted :
    (reconcile G R o).missing.union (reconcile G R o).exempted = R.difference G := by
  refine Manifest.ext_mem fun p => ?_
  rw [Manifest.mem_union, mem_missing, mem_exempted, Manifest.mem_difference, ← and_or_left]
  exact and_iff_left (Classical.em _).symm

lemma size_add_absent :
    G.size + (reconcile G R o).missing.size + (reconcile G R o).exempted.size
      = R.size + (reconcile G R o).extra.size := by
  have habsent := (R.difference G).size_filter_add (isExempt o.policy)
  have hsizes := G.size_add_difference R
  simp only [reconcile]
  omega

lemma violations_eq_nil_iff :
    (reconcile G R o).violations = []
      ↔ ∀ rule ∈ o.bans, o.Activates rule → ∀ p ∈ G, ¬rule.Bans p := by
  rw [reconcile, violations_policy, List.map_eq_nil_iff, List.filter_eq_nil_iff]
  simp

lemma passed_iff :
    (reconcile G R o).passed = true
      ↔ (∀ p ∈ G, p ∈ R) ∧ (∀ p ∈ R, p ∉ G → o.Exempts p)
        ∧ ∀ rule ∈ o.bans, o.Activates rule → ∀ p ∈ G, ¬rule.Bans p := by
  have hmissing : (reconcile G R o).missing.isEmpty = true ↔ ∀ p ∈ R, p ∉ G → o.Exempts p := by
    simp [Manifest.isEmpty_iff, mem_missing]
  have hextra : (reconcile G R o).extra.isEmpty = true ↔ ∀ p ∈ G, p ∈ R := by
    simp [Manifest.isEmpty_iff, mem_extra]
  rw [Report.passed, Bool.and_eq_true, Bool.and_eq_true, hmissing, hextra, List.isEmpty_iff,
    violations_eq_nil_iff]
  tauto

/-- **The report of a reconciliation means what it says.** -/
theorem reconcile_faithful : (reconcile G R o).Faithful G R o where
  extra := mem_extra G R o
  absent p := by
    rw [mem_missing, mem_exempted]
    tauto
  disjoint p := by
    rw [mem_missing, mem_exempted]
    tauto
  exempted := mem_exempted G R o
  size := size_add_absent G R o
  violations := violations_policy o G
  increasing v hv := by
    rw [reconcile, violations_policy] at hv
    obtain ⟨rule, -, rfl⟩ := List.mem_map.1 hv
    exact G.increasing.filter _
  passed := passed_iff G R o
  status := by
    rw [Report.status]
    split <;> simp_all

end

end InstallAudit
