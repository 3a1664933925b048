import Mathlib.Tactic.Lemma
import InstallAudit.Program

/-!
# The steps of a command

A command resolves its configuration, reads listings and works on their manifests.  Each step may
fail, and on the way a log is kept.  This module says what comes out of each step, the log left
aside, so that nothing else has to look into the steps.

* `Config.report` — the report on two listings.
* `result_loadFile`, `result_loadNormalized`, `result_checkFiles` — what becomes of files.
* `resolve_of_profile`, `resolve_of_unusable` — what becomes of a profile and the options over it.
* `result_check`, `result_normalize` — what becomes of a command; `result_check_eq_ok` says when it ends
  well.
* `execute_of_ok`, `execute_of_error` — how a run ends.
-/

namespace InstallAudit

/-! ## Results -/

section

variable {ε ε' α β : Type} {x : Except ε α} {a : α} {e : ε}

@[simp]
lemma ok_bind (k : α → Except ε β) : (Except.ok a >>= k) = k a := rfl

@[simp]
lemma error_bind (k : α → Except ε β) : (Except.error e >>= k) = .error e := rfl

@[simp]
lemma pure_eq_ok : (pure a : Except ε α) = .ok a := rfl

@[simp]
lemma map_ok (f : α → β) : (Except.ok a : Except ε α).map f = .ok (f a) := rfl

@[simp]
lemma map_error (f : α → β) : (Except.error e).map f = .error e := rfl

@[simp]
lemma mapError_ok (k : ε → ε') : (Except.ok a).mapError k = .ok a := rfl

@[simp]
lemma mapError_error (k : ε → ε') : (Except.error e : Except ε α).mapError k = .error (k e) := rfl

lemma bind_eq_ok {k : α → Except ε β} {b : β} :
    (x >>= k) = .ok b ↔ ∃ a, x = .ok a ∧ k a = .ok b := by
  cases x <;> simp

lemma map_eq_ok {f : α → β} {b : β} : x.map f = .ok b ↔ ∃ a, x = .ok a ∧ f a = b := by
  cases x <;> simp

lemma map_eq_error {f : α → β} : x.map f = .error e ↔ x = .error e := by
  cases x <;> simp

lemma mapError_eq_error {k : ε → ε'} {e' : ε'} : x.mapError k = .error e' ↔ ∃ e, x = .error e ∧ k e = e' := by
  cases x <;> simp

lemma mapError_eq_ok {k : ε → ε'} : x.mapError k = .ok a ↔ x = .ok a := by
  cases x <;> simp

end

/-! ## Files -/

/-- The report on two listings under a configuration. -/
def Config.report (c : Config) (generated reference : Text) : Report :=
  reconcile (c.manifest generated) (c.manifest reference) c.build

/-- The text of a listing, or why it cannot be read. -/
def readListing (read : FileReader) (p : Path) : Except ManifestError Text :=
  (readText read p).mapError (ManifestError.of p)

section

variable (read : FileReader)

lemma result_loadFile (o : LoadOptions) (p : Path) :
    (loadFile read o p).result = (readListing read p).map o.load := by
  simp only [loadFile, readListing]
  cases readText read p <;> rfl

lemma result_loadNormalized (c : Config) (p : Path) :
    (loadNormalized read c p).result = (readListing read p).map c.manifest := by
  simp only [loadNormalized, loadFile, readListing]
  cases readText read p <;> rfl

/-- The generated listing comes first, so its error does. -/
lemma result_checkFiles (c : Config) (generated reference : Path) :
    (checkFiles read c generated reference).result = do
      let g ← readListing read generated
      let r ← readListing read reference
      return c.report g r := by
  simp only [checkFiles, result_loadNormalized]
  cases readListing read generated <;> cases readListing read reference <;> rfl

/-- There is a report as soon as both listings can be read. -/
lemma result_checkFiles_eq_ok {c : Config} {generated reference : Path} {r : Report} :
    (checkFiles read c generated reference).result = .ok r
      ↔ ∃ g, readText read generated = .ok g
        ∧ ∃ t, readText read reference = .ok t ∧ c.report g t = r := by
  simp only [result_checkFiles, bind_eq_ok, readListing, mapError_eq_ok, pure_eq_ok,
    Except.ok.injEq]

/-! ## Configurations -/

/-- A profile with the options of a command laid over it. -/
def ProfileFlags.laidOver (flags : ProfileFlags) (build : Option BuildFlags) (p : Profile) :
    Profile :=
  match build with
  | some b => b.overlay (flags.overlay p)
  | none => flags.overlay p

lemma resolve_of_profile {flags : ProfileFlags} {build : Option BuildFlags} {p : Profile}
    (h : flags.profile read = .ok p) :
    flags.resolve build read
      = (flags.laidOver build p).config.mapError fun e => Failure.run (.config e) := by
  simp only [ProfileFlags.resolve, h]
  cases build <;> rfl

/-- Without a file there is nothing that could be wrong with a profile. -/
lemma resolve_of_unusable {flags : ProfileFlags} (build : Option BuildFlags) {e : ConfigError}
    (h : flags.profile read = .error e) :
    ∃ p, flags.config = some p ∧ Settings.profileAt read p = .error e
      ∧ flags.resolve build read = .error (.profile p e) := by
  cases hconfig : flags.config with
  | none =>
      rw [ProfileFlags.profile, hconfig] at h
      cases h
  | some p =>
      refine ⟨p, rfl, ?_, ?_⟩
      · rwa [ProfileFlags.profile, hconfig] at h
      · simp only [ProfileFlags.resolve, h, hconfig]

/-! ## Commands -/

/-- A failure to read a listing, as a failure of a command. -/
def Failure.ofListing (e : ManifestError) : Failure :=
  .run (.manifest e)

lemma result_check (json : Bool) (generated reference : Path) (flags : ProfileFlags)
    (build : BuildFlags) :
    (Program.check read json generated reference flags build).result = do
      let c ← flags.resolve (some build) read
      let r ← (checkFiles read c generated reference).result.mapError Failure.ofListing
      return Program.printReport json r := by
  simp only [Program.check]
  cases flags.resolve (some build) read with
  | error f => rfl
  | ok c =>
      simp only [ok_bind]
      cases (checkFiles read c generated reference).result <;> rfl

lemma result_check_eq_ok {json : Bool} {generated reference : Path} {flags : ProfileFlags}
    {build : BuildFlags} {e : Program.Effect} :
    (Program.check read json generated reference flags build).result = .ok e
      ↔ ∃ c, flags.resolve (some build) read = .ok c
        ∧ ∃ r, (checkFiles read c generated reference).result = .ok r
          ∧ Program.printReport json r = e := by
  simp only [result_check, bind_eq_ok, mapError_eq_ok, pure_eq_ok, Except.ok.injEq]

lemma result_normalize (json : Bool) (listing : Path) (flags : ProfileFlags) :
    (Program.normalize read json listing flags).result = do
      let c ← flags.resolve none read
      let m ← (loadNormalized read c listing).result.mapError Failure.ofListing
      return Program.printManifest json m := by
  simp only [Program.normalize]
  cases flags.resolve none read with
  | error f => rfl
  | ok c =>
      simp only [ok_bind]
      cases (loadNormalized read c listing).result <;> rfl

lemma result_normalize_eq_ok {json : Bool} {listing : Path} {flags : ProfileFlags}
    {e : Program.Effect} :
    (Program.normalize read json listing flags).result = .ok e
      ↔ ∃ c, flags.resolve none read = .ok c
        ∧ ∃ m, (loadNormalized read c listing).result = .ok m
          ∧ Program.printManifest json m = e := by
  simp only [result_normalize, bind_eq_ok, mapError_eq_ok, pure_eq_ok, Except.ok.injEq]

end

/-! ## Runs -/

section

variable {files : FileTree} {env : Option Text} {g : Globals} {command : Command}
  {trial : Program.Trial}

/-- A command that leaves the files alone and ends well. -/
lemma execute_of_ok {effect : Program.Effect}
    (h : Program.perform files g.json command = (trial, files)) (hr : trial.result = .ok effect) :
    Program.execute files env g command
      = ⟨effect.status, effect.out,
          .text ((Program.filter g env).render trial.log ++ effect.err), files⟩ := by
  simp only [Program.execute, h, hr]

/-- A command that leaves the files alone and fails. -/
lemma execute_of_error {f : Failure}
    (h : Program.perform files g.json command = (trial, files)) (hr : trial.result = .error f) :
    Program.execute files env g command
      = ⟨f.status, .text [], .text ((Program.filter g env).render trial.log ++ f.line), files⟩ := by
  simp only [Program.execute, h, hr]

end

end InstallAudit
