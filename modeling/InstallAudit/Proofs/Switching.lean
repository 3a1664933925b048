import InstallAudit.Proofs.Verdict

/-!
# What the switches do to a report

The policy of a build has a rule for each switch that is not at its default.  The rules look at the same
manifest, their directories may coincide or lie in each other, and a path may break several of them; still
none of them takes notice of another one.  So a report can be put together from reports on builds in which
one switch alone is not at its default, and from reports on parts of what is installed.

* `Switch`, `Switches.get`, `Switches.set` — the switches by their names.
* `PolicyRule.switch`, `activates_iff` — a rule is active when its switch is not at its default.
* `BuildOptions.only`, `violations_only` — the violations that are due to one switch.
* `Report.Keeps` — what a switch leaves as it is.
* `Report.Violates`, `Report.pathsOf` — what a report says under a rule.
* **`policy_additive`** — reports are put together in this way.
-/

namespace InstallAudit

open scoped List

/-! ## Switches by name -/

/-- The switches of a build, those of the bans in the order of reports. -/
inductive Switch where
  | pkgConfig
  | docs
  | examples
  | tools
  | sharedLibs
  | bindings
  deriving DecidableEq

def Switch.bans : List Switch :=
  [pkgConfig, docs, examples, tools, sharedLibs]

namespace Switches

variable {α : Type}

def get (s : Switches α) : Switch → α
  | .pkgConfig => s.pkgConfig
  | .docs => s.docs
  | .examples => s.examples
  | .tools => s.tools
  | .sharedLibs => s.sharedLibs
  | .bindings => s.bindings

def set (s : Switches α) (k : Switch) (a : α) : Switches α :=
  match k with
  | .pkgConfig => { s with pkgConfig := a }
  | .docs => { s with docs := a }
  | .examples => { s with examples := a }
  | .tools => { s with tools := a }
  | .sharedLibs => { s with sharedLibs := a }
  | .bindings => { s with bindings := a }

lemma ext_get {s t : Switches α} (h : ∀ k, s.get k = t.get k) : s = t := by
  obtain ⟨sharedLibs, pkgConfig, docs, examples, tools, bindings⟩ := s
  obtain ⟨sharedLibs', pkgConfig', docs', examples', tools', bindings'⟩ := t
  obtain rfl : sharedLibs = sharedLibs' := h .sharedLibs
  obtain rfl : pkgConfig = pkgConfig' := h .pkgConfig
  obtain rfl : docs = docs' := h .docs
  obtain rfl : examples = examples' := h .examples
  obtain rfl : tools = tools' := h .tools
  obtain rfl : bindings = bindings' := h .bindings
  rfl

lemma get_map₂ {β γ : Type} (f : α → β → γ) (s : Switches α) (t : Switches β) (k : Switch) :
    (s.map₂ f t).get k = f (s.get k) (t.get k) := by
  cases k <;> rfl

lemma get_set (s : Switches α) (k k' : Switch) (a : α) :
    (s.set k a).get k' = if k' = k then a else s.get k' := by
  cases k <;> cases k' <;> rfl

lemma get_set_of_ne (s : Switches α) {k k' : Switch} (h : k' ≠ k) (a : α) :
    (s.set k a).get k' = s.get k' := by
  rw [get_set, if_neg h]

end Switches

/-! ## The switch of a rule -/

def PolicyRule.switch : PolicyRule → Switch
  | noPkgConfig => .pkgConfig
  | noDocs _ => .docs
  | noExamples _ => .examples
  | noTools _ => .tools
  | noStaticArchives => .sharedLibs
  | exemptBinding _ => .bindings

namespace BuildOptions

variable {o o' : BuildOptions} {rule : PolicyRule}

/-- **Every rule is off by default.**  It is active when its switch is not at its default. -/
lemma activates_iff :
    o.Activates rule ↔ o.switches.get rule.switch ≠ defaultSwitches.get rule.switch := by
  cases rule <;>
    simp [Activates, PolicyRule.switch, Switches.get, defaultSwitches]

lemma activates_congr (h : o'.switches.get rule.switch = o.switches.get rule.switch) :
    o'.Activates rule ↔ o.Activates rule := by
  rw [activates_iff, activates_iff, h]

lemma map_switch_bans (o : BuildOptions) : o.bans.map PolicyRule.switch = Switch.bans := rfl

/-- The same build with one switch in another position. -/
def switched (o : BuildOptions) (k : Switch) (b : Bool) : BuildOptions :=
  { o with switches := o.switches.set k b }

/-- The same build with all switches but one at their defaults. -/
def only (o : BuildOptions) (k : Switch) : BuildOptions :=
  { o with switches := defaultSwitches.set k (o.switches.get k) }

lemma activates_only {k : Switch} : (o.only k).Activates rule ↔ rule.switch = k ∧ o.Activates rule := by
  rw [activates_iff, activates_iff, only, Switches.get_set]
  split
  · next h => rw [h]; simp
  · next h => simp [h]

lemma exempts_switched {k : Switch} (h : k ≠ .bindings) (b : Bool) (p : Path) :
    (o.switched k b).Exempts p ↔ o.Exempts p := by
  have hget : (o.switched k b).switches.bindings = o.switches.bindings :=
    o.switches.get_set_of_ne h.symm b
  rw [Exempts, Exempts, hget]
  rfl

lemma nodup_policy (o : BuildOptions) : o.policy.Nodup := by
  rw [policy_eq]
  refine List.Nodup.filter _ ?_
  simp [bans]

end BuildOptions

/-! ## The violations of one switch -/

/-- A list whose keys come in the order of other keys is put together from its parts by these keys. -/
lemma flatMap_filter_eq {α κ : Type} [DecidableEq κ] (key : α → κ) {ks : List κ} (nodup : ks.Nodup)
    {l : List α} (h : l.map key <+ ks) : (ks.flatMap fun k => l.filter fun a => key a = k) = l := by
  induction ks generalizing l with
  | nil =>
      rw [List.sublist_nil, List.map_eq_nil_iff] at h
      rw [h, List.flatMap_nil]
  | cons k ks ih =>
      obtain ⟨hk, hks⟩ := List.nodup_cons.1 nodup
      -- behind the first key, nothing more belongs to it
      have hfilter : ∀ l' : List α, l'.map key <+ ks → (l'.filter fun a => key a = k) = [] := by
        intro l' h'
        refine List.filter_eq_nil_iff.2 fun a ha hkey => hk (h'.subset ?_)
        exact of_decide_eq_true hkey ▸ List.mem_map_of_mem ha
      rw [List.flatMap_cons]
      rcases List.sublist_cons_iff.1 h with h | ⟨rest, hrest, h⟩
      · rw [hfilter l h, List.nil_append, ih hks h]
      · obtain ⟨a, l, rfl, rfl, rfl⟩ := List.map_eq_cons_iff.1 hrest
        have hothers : ∀ k' ∈ ks, ((a :: l).filter fun a' => key a' = k')
            = l.filter fun a' => key a' = k' := by
          intro k' hk'
          refine List.filter_cons_of_neg ?_
          rw [decide_eq_true_iff]
          rintro rfl
          exact hk hk'
        rw [List.filter_cons_of_pos (by simp), hfilter l h, List.flatMap_congr hothers, ih hks h]
        rfl

section

variable {G R : Manifest} {o o' : BuildOptions} {rule : PolicyRule}

/-- The violations of bans with some switches are the same for two builds that agree on these switches. -/
lemma filter_violations_congr (layout : o'.layout = o.layout) (keep : Switch → Bool)
    (agree : ∀ k ∈ Switch.bans, keep k = true → o'.switches.get k = o.switches.get k) :
    ((reconcile G R o').violations.filter fun v => keep v.rule.switch)
      = (reconcile G R o).violations.filter fun v => keep v.rule.switch := by
  have hbans : o'.bans = o.bans := by rw [BuildOptions.bans, BuildOptions.bans, layout]
  simp only [reconcile, violations_policy, List.filter_map, List.filter_filter, hbans]
  refine congrArg _ (List.filter_congr fun rule hrule => ?_)
  cases hkeep : keep rule.switch with
  | false => simp [hkeep]
  | true =>
      have hmem : rule.switch ∈ Switch.bans := o.map_switch_bans ▸ List.mem_map_of_mem hrule
      simp only [BuildOptions.activates_congr (agree _ hmem hkeep)]

/-- The violations that are due to one switch. -/
lemma violations_only (k : Switch) :
    (reconcile G R (o.only k)).violations
      = (reconcile G R o).violations.filter fun v => v.rule.switch = k := by
  have hbans : (o.only k).bans = o.bans := rfl
  simp only [reconcile, violations_policy, List.filter_map, List.filter_filter, hbans]
  refine congrArg _ (List.filter_congr fun rule _ => ?_)
  simp [BuildOptions.activates_only, and_assoc]

lemma map_switch_violations :
    ((reconcile G R o).violations.map fun v => v.rule.switch) <+ Switch.bans := by
  rw [reconcile, violations_policy, List.map_map, ← o.map_switch_bans]
  exact List.filter_sublist.map _

lemma violations_eq_flatMap :
    (reconcile G R o).violations
      = Switch.bans.flatMap fun k => (reconcile G R (o.only k)).violations := by
  simp only [violations_only]
  exact (flatMap_filter_eq _ (by decide) map_switch_violations).symm

end

/-! ## What a switch leaves as it is -/

/-- **What moving one switch leaves as it is.** -/
structure Report.Keeps (k : Switch) (r r' : Report) : Prop where
  generated : r'.generated = r.generated
  reference : r'.reference = r.reference
  extra : r'.extra = r.extra
  /-- The rules of the other switches are broken as before. -/
  others : (r'.violations.filter fun v => v.rule.switch ≠ k)
    = r.violations.filter fun v => v.rule.switch ≠ k
  /-- The switch of a ban has no say in what may be missing. -/
  ban : k ≠ .bindings → r'.missing = r.missing ∧ r'.exempted = r.exempted
  /-- The switch of the binding has no say in what is banned. -/
  binding : k = .bindings → r'.violations = r.violations
  /-- What is absent can only go from what is missing to what is exempted, or back. -/
  absent : r'.missing.union r'.exempted = r.missing.union r.exempted
  disjoint : ∀ p, ¬(p ∈ r.missing ∧ p ∈ r.exempted) ∧ ¬(p ∈ r'.missing ∧ p ∈ r'.exempted)

section

variable {G R : Manifest} {o : BuildOptions}

lemma keeps_switched (k : Switch) (b : Bool) :
    (reconcile G R o).Keeps k (reconcile G R (o.switched k b)) where
  generated := rfl
  reference := rfl
  extra := rfl
  others := by
    have layout : (o.switched k b).layout = o.layout := rfl
    refine filter_violations_congr layout (fun k' => k' ≠ k) fun k' _ hne => ?_
    exact o.switches.get_set_of_ne (of_decide_eq_true hne) b
  ban hk := by
    constructor
    · refine Manifest.ext_mem fun p => ?_
      rw [mem_missing, mem_missing, BuildOptions.exempts_switched hk]
    · refine Manifest.ext_mem fun p => ?_
      rw [mem_exempted, mem_exempted, BuildOptions.exempts_switched hk]
  binding hk := by
    have layout : (o.switched k b).layout = o.layout := rfl
    have hall := filter_violations_congr (G := G) (R := R) layout (fun _ => true) fun k' hk' _ => by
      refine o.switches.get_set_of_ne ?_ b
      rintro rfl
      rw [hk] at hk'
      exact absurd hk' (by decide)
    simpa using hall
  absent := by rw [union_missing_exempted, union_missing_exempted]
  disjoint p := ⟨not_mem_missing_exempted _ _ _ p, not_mem_missing_exempted _ _ _ p⟩

end

/-! ## What a report says under a rule -/

def Report.Violates (r : Report) (rule : PolicyRule) : Prop :=
  ∃ v ∈ r.violations, v.rule = rule

/-- The paths that a report lists under a rule. -/
def Report.pathsOf (r : Report) (rule : PolicyRule) : List Path :=
  (r.violations.filter fun v => v.rule = rule).flatMap Violation.paths

section

variable {G R : Manifest} {o : BuildOptions} {rule : PolicyRule}

lemma violates_iff :
    (reconcile G R o).Violates rule ↔ rule ∈ o.policy ∧ ∃ p ∈ G, rule.Bans p := by
  simp only [Report.Violates, reconcile, violations_eq, List.mem_map, List.mem_filter]
  constructor
  · rintro ⟨-, ⟨rule', ⟨hrule, hbroken⟩, rfl⟩, rfl⟩
    exact ⟨hrule, of_decide_eq_true hbroken⟩
  · rintro ⟨hrule, hbroken⟩
    exact ⟨_, ⟨rule, ⟨hrule, decide_eq_true hbroken⟩, rfl⟩, rfl⟩

/-- **The paths under a rule.**  They are what the rule bans, in the order of the manifest. -/
lemma pathsOf_eq :
    (reconcile G R o).pathsOf rule
      = if rule ∈ o.policy then (G.filter (rule.Bans ·)).toList else [] := by
  have honce : (o.policy.filter fun rule' => rule' = rule) = if rule ∈ o.policy then [rule] else [] := by
    rw [List.filter_eq, o.nodup_policy.count]
    split <;> rfl
  have hnone : ¬(∃ p ∈ G.toList, rule.Bans p) → G.toList.filter (rule.Bans ·) = [] := by
    intro hbroken
    exact List.filter_eq_nil_iff.2 fun p hp hbans => hbroken ⟨p, hp, of_decide_eq_true hbans⟩
  simp only [Report.pathsOf, reconcile, violations_eq, List.filter_map, List.flatMap_map,
    Function.comp_def]
  rw [List.filter_comm, honce]
  split
  · by_cases hbroken : ∃ p ∈ G.toList, rule.Bans p
    · rw [List.filter_cons_of_pos (by simpa using hbroken)]
      simp [Manifest.filter]
    · rw [List.filter_cons_of_neg (by simpa using hbroken)]
      exact (hnone hbroken).symm
  · rfl

/-- What a rule lists of a union is the sorted union of what it lists of the parts. -/
lemma pathsOf_union {G₁ G₂ : Manifest} :
    (reconcile (G₁.union G₂) R o).pathsOf rule
      = (Manifest.ofList ((reconcile G₁ R o).pathsOf rule
          ++ (reconcile G₂ R o).pathsOf rule)).toList := by
  simp only [pathsOf_eq]
  split
  · refine congrArg _ (Manifest.ext_mem fun p => ?_)
    simp [or_and_right]
  · rfl

lemma violates_union {G₁ G₂ : Manifest} :
    (reconcile (G₁.union G₂) R o).Violates rule
      ↔ (reconcile G₁ R o).Violates rule ∨ (reconcile G₂ R o).Violates rule := by
  simp only [violates_iff, Manifest.mem_union, or_and_right, exists_or, and_or_left]

end

/-! ## Putting reports together -/

/-- **Rules are independent and additive.**  The violations of a build are those of the builds in which one
switch alone is not at its default, in the order of the bans.  Moving a switch leaves everything as it is
that belongs to the others.  And a rule says of two manifests together what it says of each of them. -/
theorem policy_additive (R : Manifest) (o : BuildOptions) :
    (∀ G, (reconcile G R o).violations
        = Switch.bans.flatMap fun k => (reconcile G R (o.only k)).violations)
      ∧ (∀ G k b, (reconcile G R o).Keeps k (reconcile G R (o.switched k b)))
      ∧ ∀ G₁ G₂ rule,
        ((reconcile (G₁.union G₂) R o).Violates rule
            ↔ (reconcile G₁ R o).Violates rule ∨ (reconcile G₂ R o).Violates rule)
          ∧ (reconcile (G₁.union G₂) R o).pathsOf rule
            = (Manifest.ofList ((reconcile G₁ R o).pathsOf rule
                ++ (reconcile G₂ R o).pathsOf rule)).toList :=
  ⟨fun _ => violations_eq_flatMap, fun _ => keeps_switched, fun _ _ _ => ⟨violates_union, pathsOf_union⟩⟩

end InstallAudit
