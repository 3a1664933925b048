import InstallAudit.Proofs.Records

/-!
# Options over a profile

An option of a command goes before what the profile says, and that goes before the default.  This holds of
each option by itself: the options do not mix, and what a profile says of its directories does not matter
any more where options replace them.  Only the directories that come out in the end have to be something.

* `ProfileFlags.Origin` — where the profile under the options comes from.
* `Config.Follows` — a configuration takes the first value that there is.
* `Config.AgreesWith` — configurations are the same where the options are the same.
* `resolve_eq_ok_iff`, `resolve_eq_error_iff` — when there is a configuration, and which.
* **`resolve_precedence`** — what becomes of options and a profile.
-/

namespace InstallAudit

lemma given?_of_blank {t : Text} (h : ∀ c ∈ t, Text.isBlank c = true) : given? (some t) = none := by
  have htrim : t.trim = [] := Text.trimBoth_eq_nil_iff.2 h
  rw [given?, Option.map_some, htrim]
  rfl

/-! ## Where the values come from -/

/-- The profile that options are laid over says what its file says; without a file it says nothing. -/
def ProfileFlags.Origin (flags : ProfileFlags) (read : FileReader) (p : Profile) : Prop :=
  match flags.config with
  | some path => ∃ t d, readText read path = .ok t ∧ Toml.document? t = some d ∧ p.ReadsFrom .toml d
  | none => p = {}

lemma origin_of_profile {flags : ProfileFlags} {read : FileReader} {p : Profile}
    (h : flags.profile read = .ok p) : flags.Origin read p := by
  rw [ProfileFlags.Origin]
  rw [ProfileFlags.profile] at h
  cases hconfig : flags.config with
  | none =>
      rw [hconfig] at h
      exact (Except.ok.inj h).symm
  | some path =>
      rw [hconfig] at h
      obtain ⟨t, ht, hp⟩ := bind_eq_ok.1 h
      rw [Settings.profileOf] at hp
      cases hd : Toml.document? t with
      | none =>
          rw [hd] at hp
          cases hp
      | some d =>
          rw [hd] at hp
          exact ⟨t, d, mapError_eq_ok.1 ht, hd, readsFrom_of_decode (mapError_eq_ok.1 hp)⟩

namespace BuildFlags

/-- The directories that the options and the profile give, the options first. -/
def directories (build : BuildFlags) (p : Profile) : Directories Path :=
  build.layout.map₂ Option.getD p.layout

lemma get_directories (build : BuildFlags) (p : Profile) (d : Directory) :
    (build.directories p).get d = (build.layout.get d).getD (p.layout.get d) :=
  Directories.get_map₂ ..

end BuildFlags

/-- **The configuration of options and a profile.**  Each value is the one of the options, or else the one of
the profile, or else the default. -/
structure Config.Follows (c : Config) (flags : ProfileFlags) (build : BuildFlags) (p : Profile) :
    Prop where
  switch : ∀ k, c.build.switches.get k
    = ((build.switches.get k).or (p.switches.get k)).getD (defaultSwitches.get k)
  directory : ∀ d, c.build.layout.get d = cleanDir ((build.layout.get d).getD (p.layout.get d))
  installPrefix : c.load.installPrefix = given? (flags.installPrefix.or p.normalize.installPrefix)
  rootMarker : c.load.rootMarker = given? (flags.rootMarker.or p.normalize.rootMarker)
  /-- The tokens of both count, those of the profile first. -/
  exclude : c.load.exclude = p.normalize.exclude ++ flags.exclude
  librarySuffix : c.normalize.librarySuffix
    = given? (flags.librarySuffix.or p.normalize.librarySuffix)
  scope : c.normalize.scope = (flags.scope.or p.normalize.scope).getD .libraryDir

/-- **Two configurations** are the same where the options that they come from are the same. -/
structure Config.AgreesWith (c c' : Config) (flags flags' : ProfileFlags) (build build' : BuildFlags) :
    Prop where
  switch : ∀ k, build.switches.get k = build'.switches.get k
    → c.build.switches.get k = c'.build.switches.get k
  directory : ∀ d, build.layout.get d = build'.layout.get d
    → c.build.layout.get d = c'.build.layout.get d
  installPrefix : flags.installPrefix = flags'.installPrefix
    → c.load.installPrefix = c'.load.installPrefix
  rootMarker : flags.rootMarker = flags'.rootMarker → c.load.rootMarker = c'.load.rootMarker
  exclude : flags.exclude = flags'.exclude → c.load.exclude = c'.load.exclude
  librarySuffix : flags.librarySuffix = flags'.librarySuffix
    → c.normalize.librarySuffix = c'.normalize.librarySuffix
  scope : flags.scope = flags'.scope → c.normalize.scope = c'.normalize.scope

/-! ## What becomes of options and a profile -/

section

variable {flags : ProfileFlags} {build : BuildFlags} {p : Profile} {c : Config}

lemma follows_iff :
    c.Follows flags build p ↔ c = ⟨(flags.overlay p).loadOptions, (flags.overlay p).normalizeOptions,
      ⟨(build.switches.map₂ Option.or p.switches).map₂ Option.getD defaultSwitches,
        (build.directories p).map cleanDir⟩⟩ := by
  obtain ⟨⟨exclude, rootMarker, installPrefix⟩, ⟨librarySuffix, scope⟩, switches, layout⟩ := c
  simp only [Profile.loadOptions, Profile.normalizeOptions, Config.mk.injEq, LoadOptions.mk.injEq,
    NormalizeOptions.mk.injEq, BuildOptions.mk.injEq]
  constructor
  · intro h
    refine ⟨⟨h.exclude, h.rootMarker, h.installPrefix⟩, ⟨h.librarySuffix, h.scope⟩, ?_, ?_⟩
    · refine Switches.ext_get fun k => ?_
      rw [Switches.get_map₂, Switches.get_map₂]
      exact h.switch k
    · refine Directories.ext_get fun d => ?_
      rw [Directories.get_map, BuildFlags.get_directories]
      exact h.directory d
  · rintro ⟨⟨rfl, rfl, rfl⟩, ⟨rfl, rfl⟩, rfl, rfl⟩
    constructor
    case switch => exact fun k => by rw [Switches.get_map₂, Switches.get_map₂]
    case directory => exact fun d => by rw [Directories.get_map, BuildFlags.get_directories]
    all_goals rfl

variable {read : FileReader}

/-- **A configuration comes out** exactly when all directories are something. -/
lemma resolve_eq_ok_iff (h : flags.profile read = .ok p) :
    flags.resolve (some build) read = .ok c
      ↔ (∀ d, cleanDir ((build.layout.get d).getD (p.layout.get d)) ≠ []) ∧ c.Follows flags build p := by
  rw [resolve_of_profile read h, mapError_eq_ok, Profile.config, map_eq_ok, follows_iff]
  simp only [Profile.build_eq_ok_iff, ne_eq, cleanDir_eq_nil_iff, ← BuildFlags.get_directories]
  constructor
  · rintro ⟨b, ⟨hfull, rfl⟩, rfl⟩
    exact ⟨hfull, rfl⟩
  · rintro ⟨hfull, rfl⟩
    exact ⟨_, ⟨hfull, rfl⟩, rfl⟩

lemma resolve_eq_error_iff (h : flags.profile read = .ok p) {e : Failure} :
    flags.resolve (some build) read = .error e
      ↔ ∃ d, e = .run (.config (.emptyDirectory d)) ∧ (build.directories p).FirstHollow d := by
  rw [resolve_of_profile read h, mapError_eq_error, Profile.config]
  simp only [map_eq_error, Profile.build_eq_error_iff]
  constructor
  · rintro ⟨_, ⟨d, rfl, hd⟩, rfl⟩
    exact ⟨d, rfl, hd⟩
  · rintro ⟨d, rfl, hd⟩
    exact ⟨_, ⟨d, rfl, hd⟩, rfl⟩

lemma resolve_none (flags : ProfileFlags) (read : FileReader) :
    flags.resolve none read = flags.resolve (some {}) read := rfl

lemma agreesWith_of_follows {flags' : ProfileFlags} {build' : BuildFlags} {c' : Config}
    (h : c.Follows flags build p) (h' : c'.Follows flags' build' p) :
    c.AgreesWith c' flags flags' build build' := by
  constructor
  case switch => exact fun k hk => by rw [h.switch, h'.switch, hk]
  case directory => exact fun d hd => by rw [h.directory, h'.directory, hd]
  case installPrefix => exact fun heq => by rw [h.installPrefix, h'.installPrefix, heq]
  case rootMarker => exact fun heq => by rw [h.rootMarker, h'.rootMarker, heq]
  case exclude => exact fun heq => by rw [h.exclude, h'.exclude, heq]
  case librarySuffix => exact fun heq => by rw [h.librarySuffix, h'.librarySuffix, heq]
  case scope => exact fun heq => by rw [h.scope, h'.scope, heq]

lemma resolve_none_eq_ok (h : flags.profile read = .ok p) (hlayout : ∀ d, cleanDir (p.layout.get d) ≠ []) :
    ∃ c, flags.resolve none read = .ok c ∧ c.load = (flags.overlay p).loadOptions
      ∧ c.normalize = (flags.overlay p).normalizeOptions := by
  have hopen : ∀ d, (BuildFlags.layout {}).get d = none := fun d => by cases d <;> rfl
  have hfull : ∀ d, cleanDir (((BuildFlags.layout {}).get d).getD (p.layout.get d)) ≠ [] := by
    intro d
    rw [hopen]
    exact hlayout d
  rw [resolve_none]
  exact ⟨_, (resolve_eq_ok_iff h).2 ⟨hfull, follows_iff.2 rfl⟩, rfl, rfl⟩

end

/-- **Options go before the profile.**  The profile is what its file says, with defaults for all that is left
out.  Options and profile give a configuration exactly when every directory that comes out of them is
something, and the first that is nothing is named otherwise.  In the configuration, each value is the one
of its option, or else the one of the profile, or else the default; a blank option takes the value of
the profile away.  Other options have no say in it.  Two profiles that say the same of listings and
describe a build let listings be read in the same way. -/
theorem resolve_precedence {flags : ProfileFlags} {read : FileReader} {p : Profile}
    (h : flags.profile read = .ok p) :
    flags.Origin read p
      ∧ (∀ build c, flags.resolve (some build) read = .ok c
        ↔ (∀ d, cleanDir ((build.layout.get d).getD (p.layout.get d)) ≠ []) ∧ c.Follows flags build p)
      ∧ (∀ build e, flags.resolve (some build) read = .error e
        ↔ ∃ d, e = .run (.config (.emptyDirectory d)) ∧ (build.directories p).FirstHollow d)
      ∧ (∀ build c t, flags.resolve (some build) read = .ok c → (∀ x ∈ t, Text.isBlank x = true) →
        (flags.installPrefix = some t → c.load.installPrefix = none)
          ∧ (flags.rootMarker = some t → c.load.rootMarker = none)
          ∧ (flags.librarySuffix = some t → c.normalize.librarySuffix = none))
      ∧ (∀ flags' build build' c c', flags'.profile read = .ok p →
        flags.resolve (some build) read = .ok c → flags'.resolve (some build') read = .ok c' →
        c.AgreesWith c' flags flags' build build')
      ∧ ∀ config' read' p', ProfileFlags.profile { flags with config := config' } read' = .ok p' →
        p.normalize = p'.normalize → (∀ d, cleanDir (p.layout.get d) ≠ []) →
        (∀ d, cleanDir (p'.layout.get d) ≠ []) →
        ∃ c c', flags.resolve none read = .ok c
          ∧ ProfileFlags.resolve { flags with config := config' } none read' = .ok c'
          ∧ c.load = c'.load ∧ c.normalize = c'.normalize := by
  refine ⟨origin_of_profile h, fun build c => resolve_eq_ok_iff h, fun build e => resolve_eq_error_iff h,
    ?_, ?_, ?_⟩
  · intro build c t hc ht
    obtain ⟨-, hfollows⟩ := (resolve_eq_ok_iff h).1 hc
    refine ⟨fun hflag => ?_, fun hflag => ?_, fun hflag => ?_⟩
    · rw [hfollows.installPrefix, hflag, Option.some_or, given?_of_blank ht]
    · rw [hfollows.rootMarker, hflag, Option.some_or, given?_of_blank ht]
    · rw [hfollows.librarySuffix, hflag, Option.some_or, given?_of_blank ht]
  · intro flags' build build' c c' h' hc hc'
    obtain ⟨-, hfollows⟩ := (resolve_eq_ok_iff h).1 hc
    obtain ⟨-, hfollows'⟩ := (resolve_eq_ok_iff h').1 hc'
    exact agreesWith_of_follows hfollows hfollows'
  · intro config' read' p' h' hnormalize hlayout hlayout'
    obtain ⟨c, hc, hload, hrules⟩ := resolve_none_eq_ok h hlayout
    obtain ⟨c', hc', hload', hrules'⟩ := resolve_none_eq_ok h' hlayout'
    refine ⟨c, c', hc, hc', ?_, ?_⟩
    · rw [hload, hload', Profile.loadOptions, Profile.loadOptions, ProfileFlags.overlay,
        ProfileFlags.overlay, hnormalize]
    · rw [hrules, hrules', Profile.normalizeOptions, Profile.normalizeOptions, ProfileFlags.overlay,
        ProfileFlags.overlay, hnormalize]

/-- The profile of this file turns the documentation off and has no directory for the tools.  The options turn
the one on again and give the other, so there is a configuration; without them there is none.  The blank
prefix takes that of the file away. -/
theorem resolve_precedence_replaced :
    let file := "[options]\ndocs = \"OFF\"\ntools = false\n[layout]\ntools_dir = \"/\"\n[normalize]\n"
      ++ "install_prefix = \"usr\"\nexclude = [\"tmp\"]\n"
    let read : FileReader := fun _ => .ok (Text.encode file.toList)
    let flags : ProfileFlags :=
      { config := some "check.toml".toList, installPrefix := some " ".toList
        exclude := ["bak".toList] }
    let build : BuildFlags :=
      { switches := { openSwitches with docs := some true }
        layout := ⟨none, some "tools/".toList, none, none⟩ }
    let p : Profile :=
      { switches := { openSwitches with docs := some false, tools := some false }
        layout := { defaultLayout with tools := "/".toList }
        normalize := { installPrefix := some "usr".toList, exclude := ["tmp".toList] } }
    let c : Config :=
      { load := { exclude := ["tmp".toList, "bak".toList] }
        build :=
          { switches := { defaultSwitches with tools := false }
            layout := { defaultLayout with tools := "tools".toList } } }
    flags.profile read = .ok p ∧ flags.resolve (some build) read = .ok c
      ∧ flags.resolve (some {}) read = .error (.run (.config (.emptyDirectory .tools))) := by
  intro file read flags build p c
  have hprofile : flags.profile read = .ok p := by decide +kernel
  obtain ⟨-, hok, herror, -⟩ := resolve_precedence hprofile
  refine ⟨hprofile, (hok build c).2 ⟨fun d => by cases d <;> decide, follows_iff.2 (by decide)⟩, ?_⟩
  refine (herror {} _).2 ⟨.tools, rfl, firstEmpty?_eq_some_iff.1 (by decide)⟩

end InstallAudit
