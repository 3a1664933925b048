import InstallAudit.Proofs.Checking
import InstallAudit.Proofs.Passes
import InstallAudit.Proofs.Verdict

/-!
# What the policy sees

The policy looks at paths after they have been normalized, and at the directories of a build as they were
given.  Normalization gives the library directory its generic name, so a directory that is given with
the other name is not found any more; and a suffix of the configuration that goes over a `/` takes
directories away.  Nothing else is hidden from the policy.

* `dirs_iterate_pass_prefix`, `dirs_normalize_prefix` — what passes leave of the directories of a path;
  `dirs_normalize`, all of them, if the suffix of the configuration is flat.
* `carries_normalize` — the extensions that the policy goes by are kept.
* `Oversight` — what the policy still sees of a path, and where it is blind.
* **`policy_sees_installed`** — this holds of the rules about installed paths and of the exemption.
* `policy_blind_lib64` — documentation that is installed unseen.
-/

namespace InstallAudit

open scoped List

open InstallAudit.Path

/-! ## Directories under normalization -/

namespace NormalizeOptions

variable {o : NormalizeOptions}

/-- No `/` occurs in the suffix of the configuration. -/
def FlatSuffix (o : NormalizeOptions) : Prop :=
  ∀ s ∈ o.librarySuffix, '/' ∉ s

instance (o : NormalizeOptions) : Decidable o.FlatSuffix :=
  inferInstanceAs (Decidable (∀ s ∈ o.librarySuffix, '/' ∉ s))

/-- A pass makes the directories generic and perhaps takes some of the last ones away. -/
lemma dirs_pass_prefix (o : NormalizeOptions) (p : Path) :
    (o.normalizer.pass p).dirs <+: p.generic.dirs := by
  rw [pass_eq]
  cases hq : o.peel? p.generic with
  | none => exact List.prefix_refl _
  | some q =>
      obtain ⟨a, -, t, hp, -⟩ := exists_of_peel? hq
      rw [hp]
      exact dirs_prefix_dirs q (t ++ a)

/-- So does any number of passes behind the first one: generic directories stay as they are. -/
lemma dirs_iterate_pass_prefix (o : NormalizeOptions) (n : Nat) (p : Path) :
    (o.normalizer.pass^[n] (o.normalizer.pass p)).dirs <+: p.generic.dirs := by
  induction n generalizing p with
  | zero => exact o.dirs_pass_prefix p
  | succ n ih =>
      rw [Function.iterate_succ_apply]
      -- what is left by a pass is generic already, so the next pass renames nothing
      have hrest := (o.dirs_pass_prefix p).map genericDir
      rw [← dirs_generic, ← dirs_generic, generic_generic] at hrest
      exact (ih _).trans hrest

lemma dirs_normalize_prefix (o : NormalizeOptions) (p : Path) :
    (o.normalizer.normalize p).dirs <+: p.generic.dirs := by
  rw [Normalizer.normalize_eq_iterate_pass]
  exact o.dirs_iterate_pass_prefix _ p

lemma dirs_bare (flat : o.FlatSuffix) (p : Path) : (o.bare p).dirs = p.dirs := by
  rcases o.bare_cases p with ⟨hbare, -⟩ | ⟨s, hs, -, hp, -⟩
  · rw [hbare]
  · conv_rhs => rw [hp]
    exact (dirs_append _ (flat s hs)).symm

lemma dirs_of_peel? (flat : o.FlatSuffix) {p q : Path} (h : o.peel? p = some q) :
    q.dirs = p.dirs := by
  rw [peel?, Option.map_eq_some_iff] at h
  obtain ⟨r, hr, rfl⟩ := h
  obtain ⟨a, ha, rfl, -⟩ := exists_of_detached? hr
  rw [dirs_bare flat, dirs_append r (slash_not_mem_sharedSuffix a ha)]

lemma length_dirs_pass (flat : o.FlatSuffix) (p : Path) :
    (o.normalizer.pass p).dirs.length = p.dirs.length := by
  rw [pass_eq]
  cases hq : o.peel? p.generic with
  | none => rw [Option.getD_none, dirs_generic, List.length_map]
  | some q => rw [Option.getD_some, dirs_of_peel? flat hq, dirs_generic, List.length_map]

/-- If the suffix of the configuration is flat, no directory is lost. -/
lemma dirs_normalize (flat : o.FlatSuffix) (p : Path) :
    (o.normalizer.normalize p).dirs = p.generic.dirs := by
  refine (o.dirs_normalize_prefix p).eq_of_length ?_
  rw [dirs_generic, List.length_map, Normalizer.normalize_eq_iterate]
  exact Function.Iterate.rec (fun q : Path => q.dirs.length = p.dirs.length) rfl
    (fun q hq => (length_dirs_pass flat q).trans hq) Normalizer.passLimit

lemma lib64_not_mem_dirs_normalize (o : NormalizeOptions) (p : Path) :
    "lib64".toList ∉ (o.normalizer.normalize p).dirs := fun h =>
  p.lib64_not_mem_dirs_generic ((o.dirs_normalize_prefix p).subset h)

/-! ## Names under normalization -/

/-- A name that ends in a letter of its own is no library directory and carries no shared suffix, so
nothing happens to it. -/
lemma normalize_eq_generic {p : Path}
    (other : ∀ a ∈ "lib64".toList :: sharedSuffixes, p.name.getLast? ≠ a.getLast?) :
    o.normalizer.normalize p = p.generic ∧ p.generic.name = p.name := by
  have hname : p.generic.name = p.name := by
    rw [name_generic, genericDir, if_neg]
    intro hlib
    exact other _ List.mem_cons_self (congrArg List.getLast? hlib)
  have hnormal : p.generic.IsNormal := by
    refine ⟨p.lib64_not_mem_generic, fun a ha stem hstem => absurd ?_ (other a (.tail _ ha))⟩
    rw [← hname, hstem, List.getLast?_append_of_ne_nil stem (sharedSuffix_ne_nil a ha)]
  have hrest : o.normalizer.normalize p.generic = p.generic :=
    (o.normalize_eq_self_iff p.generic).2 hnormal
  exact ⟨by rw [← normalize_generic, hrest], hname⟩

lemma other_of_mem_extensions :
    ∀ ext ∈ [".pc".toList, ".a".toList], ∀ a ∈ "lib64".toList :: sharedSuffixes,
      ext.getLast? ≠ a.getLast? := by decide

/-- Extensions are kept. -/
lemma carries_normalize {p : Path} {ext : Text} (hext : ext ∈ [".pc".toList, ".a".toList])
    (h : p.Carries ext) : (o.normalizer.normalize p).Carries ext := by
  obtain ⟨stem, hstem, hname⟩ := h
  have hne : ext ≠ [] := by
    rintro rfl
    exact absurd hext (by decide)
  have hother := other_of_mem_extensions ext hext
  rw [← List.getLast?_append_of_ne_nil stem hne, ← hname] at hother
  obtain ⟨hnormal, hgeneric⟩ := normalize_eq_generic (o := o) hother
  exact ⟨stem, hstem, by rw [hnormal, hgeneric, hname]⟩

end NormalizeOptions

/-! ## What is seen of a path -/

/-- **What the policy still sees of a path.**  The path lay below the directory before it was
normalized; where there is no directory, the policy goes by its extension. -/
structure Oversight (o : NormalizeOptions) (p : Path) (dir? : Option Path) (seen : Prop) : Prop where
  /-- What is left of the directories are the first ones, by their generic names. -/
  left : (o.normalizer.normalize p).dirs <+: p.dirs.map genericDir
  /-- The policy sees the path as long as the directory can still be found. -/
  exact : seen ↔ ∀ dir ∈ dir?, dir.steps <:+: (o.normalizer.normalize p).dirs
  /-- It is blind below a directory that is given the other name of the library directory. -/
  blind : seen → ∀ dir ∈ dir?, "lib64".toList ∉ dir.steps
  /-- Otherwise it sees the path, unless the suffix of the configuration takes directories away. -/
  clear : o.FlatSuffix → (∀ dir ∈ dir?, "lib64".toList ∉ dir.steps) → seen

section

variable {o : NormalizeOptions} {p dir : Path} {seen : Prop}

lemma oversight_of_below (h : p.Below dir) (hseen : seen ↔ (o.normalizer.normalize p).Below dir) :
    Oversight o p (some dir) seen := by
  obtain ⟨hsteps, hrun⟩ := below_iff_infix.1 h
  have hexact : seen ↔ dir.steps <:+: (o.normalizer.normalize p).dirs := by
    rw [hseen, below_iff_infix, and_iff_right hsteps]
  constructor
  case left => exact p.dirs_generic ▸ o.dirs_normalize_prefix p
  case exact => simpa using hexact
  case blind =>
    rintro hs _ ⟨⟩ hlib
    exact o.lib64_not_mem_dirs_normalize p ((hexact.1 hs).subset hlib)
  case clear =>
    intro flat hlib
    rw [hexact, NormalizeOptions.dirs_normalize flat, dirs_generic,
      ← map_genericDir_eq_self (hlib dir rfl)]
    exact hrun.map genericDir

lemma oversight_of_seen (h : seen) : Oversight o p none seen := by
  constructor
  case left => exact p.dirs_generic ▸ o.dirs_normalize_prefix p
  case exact => simpa using h
  case blind => simp
  case clear => exact fun _ _ => h

end

/-! ## What a report says of a path -/

/-- The report blames a path for breaking a rule. -/
def Report.Blames (r : Report) (rule : PolicyRule) (p : Path) : Prop :=
  ∃ v ∈ r.violations, v.rule = rule ∧ p ∈ v.paths

section

variable {G R : Manifest} {o : BuildOptions} {p : Path}

/-- A report blames what is installed against an active rule. -/
lemma blames_iff_bans {rule : PolicyRule} :
    (reconcile G R o).Blames rule p ↔ rule ∈ o.policy ∧ p ∈ G ∧ rule.Bans p := by
  simp only [Report.Blames, reconcile, violations_eq, List.mem_map, List.mem_filter]
  constructor
  · rintro ⟨-, ⟨rule', ⟨hrule, -⟩, rfl⟩, rfl, hmem⟩
    obtain ⟨hp, hbans⟩ := List.mem_filter.1 hmem
    exact ⟨hrule, hp, of_decide_eq_true hbans⟩
  · rintro ⟨hrule, hp, hbans⟩
    refine ⟨_, ⟨rule, ⟨hrule, decide_eq_true ⟨p, hp, hbans⟩⟩, rfl⟩, rfl, ?_⟩
    exact List.mem_filter.2 ⟨hp, decide_eq_true hbans⟩

lemma blames_iff {rule : PolicyRule} (hrule : rule ∈ o.policy) (hp : p ∈ G) :
    (reconcile G R o).Blames rule p ↔ rule.Bans p := by
  rw [blames_iff_bans, and_iff_right hrule, and_iff_right hp]

lemma spared_iff (off : o.switches.bindings = false) (hR : p ∈ R) (hG : p ∉ G) :
    p ∈ (reconcile G R o).exempted ∧ p ∉ (reconcile G R o).missing ↔ p.Below o.layout.binding := by
  rw [mem_exempted, mem_missing, BuildOptions.Exempts]
  simp [off, hR, hG]

end

/-- **What the policy sees of what is installed.**  A loaded path that breaks an active rule is blamed
for it, and a path of the binding that is not installed is exempted, as far as normalization leaves the
directory in place. -/
theorem policy_sees_installed (c : Config) (generated reference : Text) :
    let report := c.report generated reference
    let normal := c.normalize.normalizer.normalize
    (∀ p ∈ c.load.load generated, ∀ rule ∈ c.build.policy, rule.Bans p →
        Oversight c.normalize p rule.dir? (report.Blames rule (normal p)))
      ∧ (c.build.switches.bindings = false → ∀ p ∈ c.load.load reference,
          p.Below c.build.layout.binding → normal p ∉ c.manifest generated →
            Oversight c.normalize p (some c.build.layout.binding)
              (normal p ∈ report.exempted ∧ normal p ∉ report.missing)) := by
  intro report normal
  have mem_manifest {listing : Text} {p : Path} (hp : p ∈ c.load.load listing) :
      normal p ∈ c.manifest listing := Normalizer.mem_apply.2 ⟨p, hp, rfl⟩
  refine ⟨fun p hp rule hrule hbans => ?_, fun off p hp hbelow hG => ?_⟩
  · have hblames : report.Blames rule (normal p) ↔ rule.Bans (normal p) :=
      blames_iff hrule (mem_manifest hp)
    cases rule with
    | noPkgConfig =>
        exact oversight_of_seen (hblames.2 (NormalizeOptions.carries_normalize (by simp) hbans))
    | noStaticArchives =>
        exact oversight_of_seen (hblames.2 (NormalizeOptions.carries_normalize (by simp) hbans))
    | noDocs dir => exact oversight_of_below hbans hblames
    | noExamples dir => exact oversight_of_below hbans hblames
    | noTools dir => exact oversight_of_below hbans hblames
    | exemptBinding dir => exact hbans.elim
  · exact oversight_of_below hbelow (spared_iff off (mem_manifest hp) hG)

/-- A page in the directory of the documentation and a module of the binding, both named like shared
libraries.  The one is blamed and the other is exempted. -/
theorem policy_sees_installed_renamed :
    let c : Config :=
      { build := { switches := { defaultSwitches with docs := false, bindings := false } } }
    let generated := "share/doc/page.so\n".toList
    let reference := "lib64/python/module.so\n".toList
    let report := c.report generated reference
    "share/doc/page.so".toList ∈ c.load.load generated
      ∧ PolicyRule.noDocs "share/doc".toList ∈ c.build.policy
      ∧ PolicyRule.Bans (.noDocs "share/doc".toList) "share/doc/page.so".toList
      ∧ report.Blames (.noDocs "share/doc".toList) "share/doc/page".toList
      ∧ "lib64/python/module.so".toList ∈ c.load.load reference
      ∧ Below "lib64/python/module.so".toList "python".toList
      ∧ "lib/python/module".toList ∉ c.manifest generated
      ∧ "lib/python/module".toList ∈ report.exempted
      ∧ "lib/python/module".toList ∉ report.missing := by
  intro c generated reference report
  have hpage : "share/doc/page.so".toList ∈ c.load.load generated := by decide
  have hrule : PolicyRule.noDocs "share/doc".toList ∈ c.build.policy := by decide
  have hbans : PolicyRule.Bans (.noDocs "share/doc".toList) "share/doc/page.so".toList := by decide
  have hmodule : "lib64/python/module.so".toList ∈ c.load.load reference := by decide
  have hbelow : Below "lib64/python/module.so".toList "python".toList := by decide
  have habsent : "lib/python/module".toList ∉ c.manifest generated := by decide
  obtain ⟨hblamed, hspared⟩ := policy_sees_installed c generated reference
  have hflat : c.normalize.FlatSuffix := by decide
  have hdocs := (hblamed _ hpage _ hrule hbans).clear hflat (by decide)
  have hbinding := (hspared rfl _ hmodule hbelow habsent).clear hflat (by decide)
  exact ⟨hpage, hrule, hbans, hdocs, hmodule, hbelow, habsent, hbinding.1, hbinding.2⟩

/-- With the other name of the library directory, the documentation is installed unseen, and a module
of the binding is missing although there is no binding. -/
theorem policy_blind_lib64 :
    let c : Config :=
      { build :=
        { switches := { defaultSwitches with docs := false, bindings := false }
          layout :=
          { defaultLayout with docs := "lib64/doc".toList, binding := "lib64/python".toList } } }
    let normal := c.normalize.normalizer.normalize
    let generated := "lib64/doc/readme\n".toList
    let reference := "lib64/doc/readme\nlib64/python/foo.py\n".toList
    let report := c.report generated reference
    ("lib64/doc/readme".toList ∈ c.load.load generated
        ∧ PolicyRule.noDocs "lib64/doc".toList ∈ c.build.policy
        ∧ PolicyRule.Bans (.noDocs "lib64/doc".toList) "lib64/doc/readme".toList
        ∧ ¬report.Blames (.noDocs "lib64/doc".toList) (normal "lib64/doc/readme".toList))
      ∧ "lib64/python/foo.py".toList ∈ c.load.load reference
        ∧ Below "lib64/python/foo.py".toList c.build.layout.binding
        ∧ normal "lib64/python/foo.py".toList ∉ c.manifest generated
        ∧ normal "lib64/python/foo.py".toList ∈ report.missing := by
  intro c normal generated reference report
  have hnone : report.violations = [] := by decide
  have hblind : ¬report.Blames (.noDocs "lib64/doc".toList) (normal "lib64/doc/readme".toList) := by
    rintro ⟨v, hv, -⟩
    rw [hnone] at hv
    cases hv
  exact ⟨⟨by decide, by decide, by decide, hblind⟩, by decide, by decide, by decide, by decide⟩

/-- A suffix with a `/` takes the directory of the documentation away together with a name. -/
example :
    let c : Config :=
      { normalize := { librarySuffix := some "/page".toList, scope := .anywhere }
        build := { switches := { defaultSwitches with docs := false } } }
    c.manifest "share/doc/page.so\n".toList = .ofList ["share/doc".toList]
      ∧ (c.report "share/doc/page.so\n".toList "share/doc/page.so\n".toList).passed = true := by
  decide

end InstallAudit
