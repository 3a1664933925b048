import InstallAudit.Proofs.ClosedForm

/-!
# Extensions under normalization

Two rules of the policy go by the extension of a name, and they look at names that have been normalized.  An
extension at the end of a name is safe, because nothing is taken off behind it.  But names are cut short at
their end, and what comes to stand there may be an extension that the name did not have.  So a shared
library that is called like a static archive is taken for one.

* `extensionBans` — the rules that go by an extension.
* `NormalizeOptions.Uncovers` — an extension stands below shared suffixes.
* `carries_normalize_iff` — names that have an extension after normalization.
* **`extension_normalize_iff`** — whom these rules blame.
* `extension_uncovered` — libraries that are taken for something else.
-/

namespace InstallAudit

open scoped List

open InstallAudit.Path

/-- The rules that go by an extension. -/
def extensionBans : List (PolicyRule × Text) :=
  [(.noPkgConfig, ".pc".toList), (.noStaticArchives, ".a".toList)]

namespace NormalizeOptions

/-- The extension is no end of the name, but it comes to be one when shared suffixes are taken off, each with
the suffix of the configuration in front of it where that is removed, as many as the limit allows. -/
def Uncovers (o : NormalizeOptions) (ext : Text) (p : Path) : Prop :=
  ∃ k, 0 < k ∧ k ≤ Normalizer.passLimit
    ∧ ∃ rest, o.peeled k p.generic = some rest ∧ rest.hasExtension ext = true

/-! ## Names that end in an extension -/

section

variable {o : NormalizeOptions} {rule : PolicyRule} {ext : Text}

/-- Neither a shared suffix nor a library directory ends like an extension. -/
lemma not_suffix_of_mem_extensionBans :
    ∀ r ∈ extensionBans, (∀ a ∈ sharedSuffixes, ¬r.2 <:+ a ∧ ¬a <:+ r.2)
      ∧ ∀ d ∈ ["lib".toList, "lib64".toList], ¬r.2 <:+ d := by decide

/-- Behind an extension nothing is taken off. -/
lemma peel?_of_carries (h : (rule, ext) ∈ extensionBans) {q : Path} (hq : q.Carries ext) :
    o.peel? q = none := by
  obtain ⟨stem, -, hname⟩ := hq
  refine peel?_eq_none.2 fun a ha stem' hname' => ?_
  obtain ⟨hext, ha⟩ := (not_suffix_of_mem_extensionBans _ h).1 a ha
  exact absurd (hname.symm.trans hname') (Text.append_ne_append hext ha)

lemma genericDir_ends_iff (h : (rule, ext) ∈ extensionBans) (d : Text) :
    (∃ stem, stem ≠ [] ∧ genericDir d = stem ++ ext) ↔ ∃ stem, stem ≠ [] ∧ d = stem ++ ext := by
  have hlib : ∀ d ∈ ["lib".toList, "lib64".toList], ¬∃ stem, stem ≠ [] ∧ d = stem ++ ext := by
    rintro d hd ⟨stem, -, hstem⟩
    exact (not_suffix_of_mem_extensionBans _ h).2 d hd ⟨stem, hstem.symm⟩
  rw [genericDir]
  split
  · next hd =>
    rw [hd]
    exact iff_of_false (hlib _ (by simp)) (hlib _ (by simp))
  · rfl

lemma carries_generic (h : (rule, ext) ∈ extensionBans) (q : Path) :
    q.generic.Carries ext ↔ q.Carries ext := by
  rw [Carries, name_generic]
  exact genericDir_ends_iff h q.name

/-- **What has an extension in the end** has it, or has it below some shared suffixes. -/
lemma carries_normalize_iff (h : (rule, ext) ∈ extensionBans) (p : Path) :
    (o.normalizer.normalize p).Carries ext ↔ p.Carries ext ∨ o.Uncovers ext p := by
  rw [normalize_iff_exists_peeled (P := fun q => q.Carries ext) (fun q => peel?_of_carries h)
    (carries_generic h) p]
  simp only [Uncovers, hasExtension_iff_carries]
  constructor
  · rintro ⟨k, hk, rest, hrest, hext⟩
    cases k with
    | zero =>
        obtain rfl : p.generic = rest := Option.some.inj hrest
        exact Or.inl ((carries_generic h p).1 hext)
    | succ k => exact Or.inr ⟨k + 1, Nat.succ_pos k, hk, rest, hrest, hext⟩
  · rintro (hext | ⟨k, -, hk, rest, hrest, hext⟩)
    · exact ⟨0, Nat.zero_le _, p.generic, rfl, (carries_generic h p).2 hext⟩
    · exact ⟨k, hk, rest, hrest, hext⟩

lemma carries_normalize_iff_division (h : (rule, ext) ∈ extensionBans) (flat : o.FlatSuffix)
    (p : Path) :
    (o.normalizer.normalize p).Carries ext
      ↔ ∃ stem blocks, stem ≠ [] ∧ o.Division p (stem ++ ext) blocks := by
  refine (name_normalize_iff_division flat (P := fun d => ∃ stem, stem ≠ [] ∧ d = stem ++ ext)
    (genericDir_ends_iff h) p).trans ?_
  constructor
  · rintro ⟨_, blocks, hdivision, stem, hstem, rfl⟩
    exact ⟨stem, blocks, hstem, hdivision⟩
  · rintro ⟨stem, blocks, hstem, hdivision⟩
    exact ⟨stem ++ ext, blocks, hdivision, stem, hstem, rfl⟩

end

end NormalizeOptions

/-! ## What is blamed for an extension -/

lemma bans_iff_carries {rule : PolicyRule} {ext : Text} (h : (rule, ext) ∈ extensionBans) {p : Path} :
    rule.Bans p ↔ p.Carries ext := by
  simp only [extensionBans, List.mem_cons, List.not_mem_nil, or_false, Prod.mk.injEq] at h
  rcases h with ⟨rfl, rfl⟩ | ⟨rfl, rfl⟩ <;> rfl

/-- **Whom the rules on extensions blame.**  Normalization takes no extension away.  A normal form has one
exactly when the path has it, or when taking off shared suffixes uncovers it; if the suffix of the
configuration is flat, that is to say that it stands at the end of the stem of the name.  So the paths
that are blamed under an active rule are the normal forms of such paths, and no others. -/
theorem extension_normalize_iff {rule : PolicyRule} {ext : Text} (h : (rule, ext) ∈ extensionBans) :
    (∀ (o : NormalizeOptions) (p : Path),
        let q := o.normalizer.normalize p
        (p.hasExtension ext = true → q.hasExtension ext = true)
          ∧ (q.hasExtension ext = true ↔ p.hasExtension ext = true ∨ o.Uncovers ext p)
          ∧ (o.FlatSuffix → (q.hasExtension ext = true
            ↔ ∃ stem blocks, stem ≠ [] ∧ o.Division p (stem ++ ext) blocks)))
      ∧ ∀ (c : Config) (generated reference : Text) (x : Path),
        (c.report generated reference).Blames rule x
          ↔ rule ∈ c.build.policy ∧ ∃ p ∈ c.load.load generated, c.normalize.normalizer.normalize p = x
            ∧ (p.hasExtension ext = true ∨ c.normalize.Uncovers ext p) := by
  refine ⟨fun o p => ?_, fun c generated reference x => ?_⟩
  · have hnormal := o.carries_normalize_iff h p
    simp only [hasExtension_iff_carries]
    exact ⟨fun hext => hnormal.2 (Or.inl hext), hnormal,
      fun flat => NormalizeOptions.carries_normalize_iff_division h flat p⟩
  · rw [Config.report, blames_iff_bans, bans_iff_carries h, Config.manifest, Normalizer.mem_apply]
    simp only [hasExtension_iff_carries]
    constructor
    · rintro ⟨hrule, ⟨p, hp, rfl⟩, hext⟩
      exact ⟨hrule, p, hp, rfl, (c.normalize.carries_normalize_iff h p).1 hext⟩
    · rintro ⟨hrule, p, hp, rfl, hext⟩
      exact ⟨hrule, ⟨p, hp, rfl⟩, (c.normalize.carries_normalize_iff h p).2 hext⟩

/-- A debug build of a library and a static archive are both blamed, the one for what stands below its
suffixes.  A library that is called like an extension is not. -/
theorem extension_normalize_iff_debug_build :
    let c : Config :=
      { normalize := { librarySuffix := some "_d".toList }
        build := { switches := { defaultSwitches with sharedLibs := true } } }
    let listing := "lib64/x.a_d.so.dll\nlib/y.a\nlib/.a.so\n".toList
    (PolicyRule.noStaticArchives, ".a".toList) ∈ extensionBans
      ∧ c.normalize.Uncovers ".a".toList "lib64/x.a_d.so.dll".toList
      ∧ (c.report listing listing).Blames .noStaticArchives "lib/x.a".toList
      ∧ (c.report listing listing).Blames .noStaticArchives "lib/y.a".toList
      ∧ ¬(c.report listing listing).Blames .noStaticArchives "lib/.a".toList := by
  intro c listing
  have hrule : (PolicyRule.noStaticArchives, ".a".toList) ∈ extensionBans := by decide
  obtain ⟨hpaths, hreports⟩ := extension_normalize_iff hrule
  have huncovers : c.normalize.Uncovers ".a".toList "lib64/x.a_d.so.dll".toList :=
    ⟨2, by decide, by decide, "lib/x.a".toList, by decide, by decide⟩
  refine ⟨hrule, huncovers, (hreports c listing listing _).2 ?_, (hreports c listing listing _).2 ?_,
    fun h => ?_⟩
  · exact ⟨by decide, _, by decide, by decide, Or.inr huncovers⟩
  · exact ⟨by decide, "lib/y.a".toList, by decide, by decide, Or.inl (by decide)⟩
  · obtain ⟨-, p, -, hp, hext⟩ := (hreports c listing listing _).1 h
    have hnone := (hpaths c.normalize p).2.1.2 hext
    rw [hp] at hnone
    exact absurd hnone (by decide)

/-- A library that is called like a static archive is blamed for being one, and a library that is called like
a file of pkg-config for being that. -/
theorem extension_uncovered :
    let n := NormalizeOptions.normalizer {}
    let c : Config :=
      { build := { switches := { defaultSwitches with sharedLibs := true, pkgConfig := false } } }
    let listing := "lib/foo.a.so\nlib/foo.pc.dll\n".toList
    (hasExtension "lib/foo.a.so".toList ".a".toList = false
        ∧ (n.normalize "lib/foo.a.so".toList).hasExtension ".a".toList = true)
      ∧ (hasExtension "lib/foo.pc.dll".toList ".pc".toList = false
        ∧ (n.normalize "lib/foo.pc.dll".toList).hasExtension ".pc".toList = true)
      ∧ (c.report listing listing).violations
        = [⟨.noPkgConfig, ["lib/foo.pc".toList]⟩, ⟨.noStaticArchives, ["lib/foo.a".toList]⟩] := by
  decide

end InstallAudit
