import Mathlib.Data.List.Infix
import Mathlib.Tactic.ByContra
import InstallAudit.Proofs.Layouts
import InstallAudit.Proofs.Options

/-!
# How a run ends

The exit status of a failure is found by looking at the first words of its message, and the message has
been put together from errors of three kinds in two places.  This module says what is wrong with the
input of a command before there is any message (`Broken`), which of several faults is the first
(`Fault`), and that status and message of a run follow from this alone.

* `FirstUnread`, `Fault`, `Broken` — what may be wrong with the input, and what is found first.
* `check_eq_error_iff`, `normalize_eq_error_iff` — a command fails by its first fault and by nothing
  else.
* `faultLog`, `log_check_of_error`, `log_normalize` — what is said on the way to a fault.
* `status_of_fault` — the words that the status goes by are those of the message of a fault.
* `Outcome.Refused`, `Outcome.Answers` — what the end of a run says about its input.
* **`exit_status_contract`** — how a check and a normalization end.
-/

namespace InstallAudit

/-! ## What may be wrong with the input -/

/-- The first of several listings that cannot be read, and why. -/
inductive FirstUnread (read : FileReader) : List Path → Path → FileError → Prop
  | here {l : Path} {ls : List Path} {e : FileError} (unread : readText read l = .error e) :
      FirstUnread read (l :: ls) l e
  | later {l m : Path} {ls : List Path} {t : Text} {e : FileError} (readable : readText read m = .ok t)
      (rest : FirstUnread read ls l e) : FirstUnread read (m :: ls) l e

/-- What is first found to be wrong with the input of a command. -/
inductive Fault (read : FileReader) (flags : ProfileFlags) (build : Option BuildFlags)
    (listings : List Path) : Failure → Prop
  | profile {p : Path} {e : ConfigError} (named : flags.config = some p)
      (unusable : Settings.profileAt read p = .error e) :
      Fault read flags build listings (.profile p e)
  | layout {p : Profile} {d : Directory} (loaded : flags.profile read = .ok p)
      (empty : firstEmpty? (flags.laidOver build p).layout = some d) :
      Fault read flags build listings (.run (.config (.emptyDirectory d)))
  | listing {p : Profile} {l : Path} {e : FileError} (loaded : flags.profile read = .ok p)
      (full : firstEmpty? (flags.laidOver build p).layout = none)
      (unread : FirstUnread read listings l e) :
      Fault read flags build listings (.ofListing (.of l e))

/-- Something is wrong with the input of a command. -/
def Broken (read : FileReader) (flags : ProfileFlags) (build : Option BuildFlags)
    (listings : List Path) : Prop :=
  (∃ p ∈ flags.config, (∃ e, readText read p = .error e)
      ∨ ∃ t e, readText read p = .ok t ∧ Settings.profileOf t = .error e)
    ∨ (∃ p, flags.profile read = .ok p
      ∧ ∃ d, cleanDir ((flags.laidOver build p).layout.get d) = [])
    ∨ ∃ l ∈ listings, ∃ e, readText read l = .error e

section

variable {read : FileReader} {flags : ProfileFlags} {build : Option BuildFlags}
  {listings : List Path} {f : Failure}

lemma firstUnread_cons_of_error {l m : Path} {ls : List Path} {e e' : FileError}
    (h : readText read m = .error e) : FirstUnread read (m :: ls) l e' ↔ l = m ∧ e' = e := by
  constructor
  · rintro (hl | ⟨hm, -⟩)
    · rw [h, Except.error.injEq] at hl
      exact ⟨rfl, hl.symm⟩
    · rw [h] at hm
      cases hm
  · rintro ⟨rfl, rfl⟩
    exact .here h

/-- A listing in front that cannot be read is the first one. -/
lemma exists_firstUnread_cons_of_error {P : Path → FileError → Prop} {m : Path} {ls : List Path}
    {e : FileError} (h : readText read m = .error e) :
    (∃ l e', FirstUnread read (m :: ls) l e' ∧ P l e') ↔ P m e := by
  constructor
  · rintro ⟨l, e', hl, hP⟩
    obtain ⟨rfl, rfl⟩ := (firstUnread_cons_of_error h).1 hl
    exact hP
  · exact fun hP => ⟨m, e, .here h, hP⟩

lemma firstUnread_cons_of_ok {l m : Path} {ls : List Path} {t : Text} {e : FileError}
    (h : readText read m = .ok t) : FirstUnread read (m :: ls) l e ↔ FirstUnread read ls l e := by
  constructor
  · rintro (hl | ⟨-, hl⟩)
    · rw [h] at hl
      cases hl
    · exact hl
  · exact .later h

lemma not_firstUnread_nil {l : Path} {e : FileError} : ¬FirstUnread read [] l e := by
  rintro ⟨⟩

/-- Some listing is the first unread one as soon as one cannot be read. -/
lemma exists_firstUnread_iff :
    (∃ l e, FirstUnread read listings l e) ↔ ∃ l ∈ listings, ∃ e, readText read l = .error e := by
  induction listings with
  | nil => simp [not_firstUnread_nil]
  | cons m ls ih =>
      cases hm : readText read m with
      | error e => exact iff_of_true ⟨m, e, .here hm⟩ ⟨m, List.mem_cons_self, e, hm⟩
      | ok t =>
          simp [firstUnread_cons_of_ok hm, ih, hm]

lemma profileAt_eq_error_iff {p : Path} :
    (∃ e, Settings.profileAt read p = .error e)
      ↔ (∃ e, readText read p = .error e)
        ∨ ∃ t e, readText read p = .ok t ∧ Settings.profileOf t = .error e := by
  simp only [Settings.profileAt]
  cases readText read p with
  | error e => simp
  | ok t => simp

/-! ## The order of the steps -/

/-- Where there is no profile, that is what is wrong first. -/
lemma fault_iff_of_unusable {e : ConfigError} (h : flags.profile read = .error e) :
    Fault read flags build listings f ↔ ∃ p, flags.config = some p ∧ Failure.profile p e = f := by
  obtain ⟨p, hconfig, hat, -⟩ := resolve_of_unusable read build h
  constructor
  · intro hf
    cases hf with
    | @profile q e' named unusable =>
        rw [hconfig, Option.some.injEq] at named
        subst named
        rw [hat, Except.error.injEq] at unusable
        exact ⟨p, hconfig, by rw [unusable]⟩
    | layout loaded empty => rw [h] at loaded; cases loaded
    | listing loaded full unread => rw [h] at loaded; cases loaded
  · rintro ⟨q, hq, rfl⟩
    rw [hconfig, Option.some.injEq] at hq
    subst hq
    exact .profile hconfig hat

/-- Where there is a profile, the layout is looked at next, and the listings last. -/
lemma fault_iff_of_profile {p : Profile} (h : flags.profile read = .ok p) :
    Fault read flags build listings f
      ↔ (∃ d, firstEmpty? (flags.laidOver build p).layout = some d
          ∧ Failure.run (.config (.emptyDirectory d)) = f)
        ∨ firstEmpty? (flags.laidOver build p).layout = none
          ∧ ∃ l e, FirstUnread read listings l e ∧ .ofListing (.of l e) = f := by
  constructor
  · intro hf
    cases hf with
    | profile named unusable =>
        simp only [ProfileFlags.profile, named, unusable] at h
        cases h
    | layout loaded empty =>
        rw [h, Except.ok.injEq] at loaded
        subst loaded
        exact Or.inl ⟨_, empty, rfl⟩
    | listing loaded full unread =>
        rw [h, Except.ok.injEq] at loaded
        subst loaded
        exact Or.inr ⟨full, _, _, unread, rfl⟩
  · rintro (⟨d, hd, rfl⟩ | ⟨hfull, l, e, hl, rfl⟩)
    · exact .layout h hd
    · exact .listing h hfull hl

lemma config_eq {p : Profile} :
    p.config = match firstEmpty? p.layout with
      | some d => .error (.emptyDirectory d)
      | none => .ok ⟨p.loadOptions, p.normalizeOptions,
          ⟨p.switches.map₂ Option.getD defaultSwitches, p.layout.map cleanDir⟩⟩ := by
  rw [Profile.config, Profile.build]
  cases firstEmpty? p.layout <;> rfl

/-- A command that resolves its configuration and then works through its listings fails by what is
wrong first. -/
lemma bind_eq_error_iff {α : Type} {work : Config → Except Failure α}
    (works : ∀ c, work c = .error f
      ↔ ∃ l e, FirstUnread read listings l e ∧ .ofListing (.of l e) = f) :
    (flags.resolve build read >>= work) = .error f ↔ Fault read flags build listings f := by
  cases hp : flags.profile read with
  | error e =>
      obtain ⟨p, hconfig, -, hresolve⟩ := resolve_of_unusable read build hp
      rw [hresolve, fault_iff_of_unusable hp, hconfig]
      simp
  | ok p =>
      rw [resolve_of_profile read hp, fault_iff_of_profile hp, config_eq]
      cases firstEmpty? (flags.laidOver build p).layout with
      | some d => simp
      | none => simpa using works _

lemma check_eq_error_iff {json : Bool} {generated reference : Path} {build : BuildFlags} :
    (Program.check read json generated reference flags build).result = .error f
      ↔ Fault read flags (some build) [generated, reference] f := by
  rw [result_check]
  refine bind_eq_error_iff fun c => ?_
  rw [result_checkFiles]
  cases hg : readText read generated with
  | error e =>
      simp [readListing, hg, exists_firstUnread_cons_of_error hg]
  | ok tg =>
      cases hr : readText read reference with
      | error e =>
          simp [readListing, hg, hr, firstUnread_cons_of_ok hg, exists_firstUnread_cons_of_error hr]
      | ok tr =>
          simp [readListing, hg, hr, firstUnread_cons_of_ok hg, firstUnread_cons_of_ok hr,
            not_firstUnread_nil]

lemma normalize_eq_error_iff {json : Bool} {listing : Path} :
    (Program.normalize read json listing flags).result = .error f
      ↔ Fault read flags none [listing] f := by
  rw [result_normalize]
  refine bind_eq_error_iff fun c => ?_
  rw [result_loadNormalized]
  cases h : readText read listing with
  | error e =>
      simp [readListing, h, exists_firstUnread_cons_of_error h]
  | ok t =>
      simp [readListing, h, firstUnread_cons_of_ok h, not_firstUnread_nil]

lemma unusable_iff :
    (∃ p ∈ flags.config, (∃ e, readText read p = .error e)
        ∨ ∃ t e, readText read p = .ok t ∧ Settings.profileOf t = .error e)
      ↔ ∃ e, flags.profile read = .error e := by
  simp only [← profileAt_eq_error_iff, ProfileFlags.profile]
  cases flags.config <;> simp

/-- Something is wrong first as soon as something is wrong. -/
lemma exists_fault_iff :
    (∃ f, Fault read flags build listings f) ↔ Broken read flags build listings := by
  rw [Broken, unusable_iff]
  cases hp : flags.profile read with
  | error e =>
      obtain ⟨p, hconfig, hat, -⟩ := resolve_of_unusable read build hp
      exact iff_of_true ⟨_, .profile hconfig hat⟩ (Or.inl ⟨e, rfl⟩)
  | ok p =>
      simp only [fault_iff_of_profile hp]
      -- an empty directory is found before any listing is read, whatever the listings are
      cases hempty : firstEmpty? (flags.laidOver build p).layout with
      | some d =>
          refine iff_of_true ⟨_, Or.inl ⟨d, rfl, rfl⟩⟩ (Or.inr (Or.inl ⟨p, rfl, ?_⟩))
          by_contra hfull
          rw [firstEmpty?_eq_none_iff.2 fun d hd => hfull ⟨d, hd⟩] at hempty
          cases hempty
      | none =>
          have hfull := firstEmpty?_eq_none_iff.1 hempty
          rw [← exists_firstUnread_iff]
          constructor
          · rintro ⟨f, ⟨d, hd, -⟩ | ⟨-, l, e, hl, -⟩⟩
            · cases hd
            · exact Or.inr (Or.inr ⟨l, e, hl⟩)
          · rintro (⟨e, he⟩ | ⟨q, hq, d, hd⟩ | ⟨l, e, hl⟩)
            · cases he
            · rw [Except.ok.injEq] at hq
              subst hq
              exact absurd hd (hfull d)
            · exact ⟨_, Or.inr ⟨rfl, l, e, hl, rfl⟩⟩

/-! ## What is said on the way -/

/-- What is said on the way to a fault.  Nothing is said before there is a configuration; then it is
shown, and each listing that can be read is spoken of.  Of a report nothing is said. -/
def faultLog (read : FileReader) (flags : ProfileFlags) (build : Option BuildFlags)
    (listings : List Path) : List Event :=
  (flags.resolve build read).toOption.elim [] fun c =>
    configLog c ++ listings.flatMap fun l => (loadNormalized read c l).log

lemma log_checkFiles_of_error {c : Config} {generated reference : Path} {e : ManifestError}
    (h : (checkFiles read c generated reference).result = .error e) :
    (checkFiles read c generated reference).log
      = (loadNormalized read c generated).log ++ (loadNormalized read c reference).log := by
  rw [checkFiles] at h ⊢
  cases hg : (loadNormalized read c generated).result with
  | error e => rfl
  | ok g =>
      cases hr : (loadNormalized read c reference).result with
      | error e => rfl
      -- with both manifests at hand there would be a report
      | ok r => simp [hg, hr] at h

lemma log_check_of_error {json : Bool} {generated reference : Path} {build : BuildFlags}
    (h : (Program.check read json generated reference flags build).result = .error f) :
    (Program.check read json generated reference flags build).log
      = faultLog read flags (some build) [generated, reference] := by
  rw [faultLog]
  rw [Program.check] at h ⊢
  cases hc : flags.resolve (some build) read with
  | error e => rfl
  | ok c =>
      cases hchecked : (checkFiles read c generated reference).result with
      | error e => simp [log_checkFiles_of_error hchecked, Except.toOption]
      | ok r => simp [hc, hchecked] at h

lemma log_normalize {json : Bool} {listing : Path} :
    (Program.normalize read json listing flags).log = faultLog read flags none [listing] := by
  rw [faultLog, Program.normalize]
  cases flags.resolve none read with
  | error e => rfl
  | ok c => simp [Except.toOption]

/-! ## Messages and codes -/

lemma append_isPrefix_append {words t : Text} (u rest : Text) (h : words <+: t) :
    u ++ words <+: u ++ t ++ rest :=
  ((List.prefix_append_right_inj u).2 h).trans (List.prefix_append _ rest)

lemma Failure.isPrefix_line {words : Text} (h : words <+: f.message) :
    "error: ".toList ++ words <+: f.line :=
  append_isPrefix_append _ _ h

/-- The message says which part of the input is to blame. -/
lemma words_of_fault (h : Fault read flags build listings f) :
    "config error:".toList <+: f.message ∨ "manifest error:".toList <+: f.message := by
  have hconfig (t : Text) : "config error:".toList <+: "config error: ".toList ++ t := by simp
  have hmanifest (t : Text) : "manifest error:".toList <+: "manifest error: ".toList ++ t := by simp
  cases h with
  | @profile p e named unusable =>
      have hfile := (hconfig p).trans (List.prefix_append _ ": ".toList)
      exact Or.inl (hfile.trans (List.prefix_append _ e.message))
  | layout loaded empty => exact Or.inl (hconfig _)
  | listing loaded full unread => exact Or.inr (hmanifest _)

/-- What is wrong with the input has the status 2, for the words of its message are the ones that
the status goes by. -/
lemma status_of_fault (h : Fault read flags build listings f) : f.status = 2 := by
  rw [Failure.status, if_pos]
  rw [List.any_eq_true]
  obtain hwords | hwords := words_of_fault h
  · exact ⟨_, List.mem_cons_of_mem _ List.mem_cons_self, List.isPrefixOf_iff_prefix.2 hwords⟩
  · exact ⟨_, List.mem_cons_self, List.isPrefixOf_iff_prefix.2 hwords⟩

/-! ## The end of a run -/

/-- **A run that is stopped by its input.** -/
structure Outcome.Refused (env : Option Text) (g : Globals) (log : List Event) (f : Failure)
    (o : Outcome) : Prop where
  status : o.status = 2
  /-- No report is printed. -/
  out : o.out = .text []
  /-- The failure has the last word, behind the log.  The listings of a check are read side by side,
  so what is said of them may come in another order. -/
  err : ∃ events, events.Perm log ∧ o.err = .text ((Program.filter g env).render events ++ f.line)
  line : "error: config error:".toList <+: f.line ∨ "error: manifest error:".toList <+: f.line

/-- **What the end of a run says about its input.** -/
structure Outcome.Answers (read : FileReader) (flags : ProfileFlags) (build : Option BuildFlags)
    (listings : List Path) (env : Option Text) (g : Globals) (verdict : Nat → Prop) (o : Outcome) :
    Prop where
  /-- The code is 2 when something is wrong with the input. -/
  broken : o.status = 2 ↔ Broken read flags build listings
  /-- Otherwise the code is the verdict of the command. -/
  intact : ¬Broken read flags build listings → verdict o.status
  /-- What is wrong with the input is reported, the first thing first. -/
  first : Broken read flags build listings → ∃ f, Fault read flags build listings f
  refused : ∀ f, Fault read flags build listings f →
    o.Refused env g (faultLog read flags build listings) f

/-- A command that fails exactly by what is wrong with its input answers for it. -/
lemma answers_of_trial {files : FileTree} {env : Option Text} {g : Globals} {command : Command}
    {trial : Program.Trial} {verdict : Nat → Prop}
    (hperform : Program.perform files g.json command = (trial, files))
    (herror : ∀ f, trial.result = .error f ↔ Fault read flags build listings f)
    (hlog : ∀ f, trial.result = .error f → trial.log = faultLog read flags build listings)
    (hok : ∀ e, trial.result = .ok e → verdict e.status ∧ e.status ≠ 2) :
    (Program.execute files env g command).Answers read flags build listings env g verdict := by
  have hrefused : ∀ f, Fault read flags build listings f →
      (Program.execute files env g command).Refused env g (faultLog read flags build listings) f := by
    intro f hf
    have hfails := (herror f).2 hf
    rw [execute_of_error hperform hfails, hlog f hfails]
    refine ⟨status_of_fault hf, rfl, ⟨_, .refl _, rfl⟩, ?_⟩
    exact (words_of_fault hf).imp Failure.isPrefix_line Failure.isPrefix_line
  have hintact : ¬Broken read flags build listings →
      verdict (Program.execute files env g command).status
        ∧ (Program.execute files env g command).status ≠ 2 := by
    intro hbroken
    cases hr : trial.result with
    | error f => exact absurd (exists_fault_iff.1 ⟨f, (herror f).1 hr⟩) hbroken
    | ok e =>
        rw [execute_of_ok hperform hr]
        exact hok e hr
  refine ⟨⟨fun h => ?_, fun h => ?_⟩, fun h => (hintact h).1, exists_fault_iff.2, hrefused⟩
  · by_contra hbroken
    exact (hintact hbroken).2 h
  · obtain ⟨f, hf⟩ := exists_fault_iff.2 h
    exact (hrefused f hf).status

end

/-! ## The contract -/

lemma status_printReport (json : Bool) (r : Report) :
    (Program.printReport json r).status = if r.passed then 0 else 1 := by
  cases json <;> rfl

/-- The code of a check whose input is in order: whether its report passed. -/
def Verdict (read : FileReader) (flags : ProfileFlags) (build : BuildFlags)
    (generated reference : Path) (status : Nat) : Prop :=
  ∃ c g r, flags.resolve (some build) read = .ok c ∧ readText read generated = .ok g
    ∧ readText read reference = .ok r ∧ status = if (c.report g r).passed then 0 else 1

section

variable {files : FileTree} {env env' : Option Text} {g g' : Globals}

lemma answers_check {generated reference : Path} {flags : ProfileFlags} {build : BuildFlags} :
    (Program.execute files env g (.check generated reference flags build)).Answers files.read flags
      (some build) [generated, reference] env g
      (Verdict files.read flags build generated reference) := by
  refine answers_of_trial rfl (fun f => check_eq_error_iff) (fun f => log_check_of_error) fun e he => ?_
  obtain ⟨c, hc, report, hreport, rfl⟩ := (result_check_eq_ok files.read).1 he
  obtain ⟨tg, hg, tr, hr, rfl⟩ := (result_checkFiles_eq_ok files.read).1 hreport
  rw [status_printReport]
  refine ⟨⟨c, tg, tr, hc, hg, hr, rfl⟩, ?_⟩
  split <;> decide

lemma answers_normalize {listing : Path} {flags : ProfileFlags} :
    (Program.execute files env g (.normalize listing flags)).Answers files.read flags none [listing]
      env g (· = 0) := by
  refine answers_of_trial rfl (fun f => normalize_eq_error_iff) (fun f _ => log_normalize) fun e he => ?_
  obtain ⟨c, -, m, -, rfl⟩ := (result_normalize_eq_ok files.read).1 he
  exact ⟨rfl, Nat.zero_ne_add_one 1⟩

/-- The options that every command has, and the filter of the log, do not touch the code of a check. -/
lemma status_check_eq {generated reference : Path} {flags : ProfileFlags} {build : BuildFlags} :
    (Program.execute files env g (.check generated reference flags build)).status
      = (Program.execute files env' g' (.check generated reference flags build)).status := by
  simp only [Program.execute, Program.perform, result_check]
  cases flags.resolve (some build) files.read with
  | error f => rfl
  | ok c =>
      cases hr : (checkFiles files.read c generated reference).result with
      | error e => simp [hr]
      | ok r =>
          simp [hr, status_printReport]

end

/-- **The exit codes.**  A check ends with 2 exactly when its input is broken, else with the verdict on
its report; the first fault of a broken input is all that is printed, behind the log of what led to
it.  Another command line for the same check ends with the same code, and so does the one that asks for
JSON in addition.  A normalization ends with 2 or with 0. -/
theorem exit_status_contract (files : FileTree) (env : Option Text) :
    (∀ args g generated reference flags build,
      CommandLine.parse args = .ok (g, .check generated reference flags build) →
        (Program.run files env args).Answers files.read flags (some build) [generated, reference] env
            g (Verdict files.read flags build generated reference)
          ∧ (∀ args' g' env',
              CommandLine.parse args' = .ok (g', .check generated reference flags build) →
                (Program.run files env' args').status = (Program.run files env args).status)
          ∧ (g.json = false →
              (Program.run files env ("--json".toList :: args)).status
                = (Program.run files env args).status))
      ∧ ∀ args g listing flags, CommandLine.parse args = .ok (g, .normalize listing flags) →
          (Program.run files env args).Answers files.read flags none [listing] env g (· = 0) := by
  refine ⟨fun args g generated reference flags build hparse => ?_, fun args g listing flags hparse => ?_⟩
  · have hrun : Program.run files env args
        = Program.execute files env g (.check generated reference flags build) := by
      rw [Program.run, hparse]
    rw [hrun]
    refine ⟨answers_check, fun args' g' env' hparse' => ?_, fun hjson => ?_⟩
    · rw [Program.run, hparse']
      exact status_check_eq
    · rw [Program.run, CommandLine.parse_json_cons hparse hjson]
      exact status_check_eq
  · rw [Program.run, hparse]
    exact answers_normalize

/-- The reference of this check is not there: that is said, and nothing else is. -/
theorem exit_status_contract_no_reference :
    let files : FileTree := ⟨[(["g".toList], .file (Text.encode "lib/a.so\n".toList))]⟩
    let args := ["check".toList, "g".toList, "r".toList, "--docs=off".toList]
    let build : BuildFlags := { switches := { openSwitches with docs := some false } }
    CommandLine.parse args = .ok ({}, .check "g".toList "r".toList {} build)
      ∧ Broken files.read {} (some build) ["g".toList, "r".toList]
      ∧ (Program.run files none args).status = 2
      ∧ (Program.run files none ("--json".toList :: args)).status = 2
      ∧ (Program.run files none args).err
        = .text "error: manifest error: manifest file not found: r\n".toList := by
  intro files args build
  have hparse : CommandLine.parse args = .ok ({}, .check "g".toList "r".toList {} build) := by
    decide +kernel
  obtain ⟨hanswers, -, hjson⟩ := (exit_status_contract files none).1 _ _ _ _ _ _ hparse
  have hbroken : Broken files.read {} (some build) ["g".toList, "r".toList] := by
    refine Or.inr (Or.inr ⟨"r".toList, by decide, .missing, ?_⟩)
    decide +kernel
  have hstatus := hanswers.broken.2 hbroken
  exact ⟨hparse, hbroken, hstatus, (hjson rfl).trans hstatus, by decide +kernel⟩

end InstallAudit
