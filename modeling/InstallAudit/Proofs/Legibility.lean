import InstallAudit.Proofs.Comparisons
import InstallAudit.Proofs.Texts

/-!
# What the text of a report tells

The text of a report is a row of blocks, each a heading and indented lines below it, and a block without
lines is left out.  A path may begin with blanks or read like a heading, and the directory in a message
may contain quotes, so no line speaks for itself.  Still the text can be read back: a heading of a block
is never indented and the message of a rule never begins with a blank, so the indentation alone tells
where a block ends, and the beginning and the end of a message tell which rule it states.

* `PolicyRule.message_injective` — different rules have different messages.
* `headed`, `readHeaded_headed` — a block, and taking it off the front of the lines.
* `Report.lines`, `Report.text_eq` — a report as a list of lines.
* `Report.read`, `Report.read_text` — what can be read from a text, and that it is what was reported.
* **`report_legible`** — two reconciliations with the same text complain of the same things.
-/

namespace InstallAudit

open scoped List

/-! ## Messages -/

namespace PolicyRule

/-- The character that a message begins with. -/
def initial : PolicyRule → Char
  | noPkgConfig => 'p'
  | noDocs _ | noExamples _ | noTools _ => 'f'
  | noStaticArchives => 's'
  | exemptBinding _ => 'e'

lemma head?_message (rule : PolicyRule) : rule.message.head? = some rule.initial := by
  cases rule <;> rfl

/-- **A message states one rule.**  Three rules begin alike, but their messages end differently, and so
the ends cannot be covered by what is quoted. -/
theorem message_injective : Function.Injective message := by
  intro rule rule' h
  have hinitial : rule.initial = rule'.initial := by
    rw [← Option.some.injEq, ← head?_message, h, head?_message]
  have docs_examples : ∀ dir dir', (noDocs dir).message ≠ (noExamples dir').message := fun _ _ =>
    Text.append_ne_append (by decide) (by decide)
  have docs_tools : ∀ dir dir', (noDocs dir).message ≠ (noTools dir').message := fun _ _ =>
    Text.append_ne_append (by decide) (by decide)
  have examples_tools : ∀ dir dir', (noExamples dir).message ≠ (noTools dir').message := fun _ _ =>
    Text.append_ne_append (by decide) (by decide)
  cases rule with
  | noPkgConfig =>
      cases rule' with
      | noPkgConfig => rfl
      | _ => cases hinitial
  | noDocs dir =>
      cases rule' with
      | noDocs dir' => rw [List.append_cancel_left (List.append_cancel_right h)]
      | noExamples dir' => exact absurd h (docs_examples _ _)
      | noTools dir' => exact absurd h (docs_tools _ _)
      | _ => cases hinitial
  | noExamples dir =>
      cases rule' with
      | noDocs dir' => exact absurd h.symm (docs_examples _ _)
      | noExamples dir' => rw [List.append_cancel_left (List.append_cancel_right h)]
      | noTools dir' => exact absurd h (examples_tools _ _)
      | _ => cases hinitial
  | noTools dir =>
      cases rule' with
      | noDocs dir' => exact absurd h.symm (docs_tools _ _)
      | noExamples dir' => exact absurd h.symm (examples_tools _ _)
      | noTools dir' => rw [List.append_cancel_left (List.append_cancel_right h)]
      | _ => cases hinitial
  | noStaticArchives =>
      cases rule' with
      | noStaticArchives => rfl
      | _ => cases hinitial
  | exemptBinding dir =>
      cases rule' with
      | exemptBinding dir' => rw [List.append_cancel_left (List.append_cancel_right h)]
      | _ => cases hinitial

lemma initial_ne (rule : PolicyRule) : rule.initial ≠ ' ' := by
  intro h
  cases rule <;> cases h

lemma not_mem_quoted {c : Char} {front dir back : Text} (hfront : c ∉ front) (hdir : c ∉ dir)
    (hback : c ∉ back) : c ∉ front ++ dir ++ back := by
  simp only [List.mem_append, not_or]
  exact ⟨⟨hfront, hdir⟩, hback⟩

/-- A message is one line if the directory in it is. -/
lemma newline_not_mem_message {rule : PolicyRule} (h : ∀ dir ∈ rule.dir?, '\n' ∉ dir) :
    '\n' ∉ rule.message := by
  cases rule with
  | noPkgConfig => decide
  | noDocs dir => exact not_mem_quoted (by decide) (h dir rfl) (by decide)
  | noExamples dir => exact not_mem_quoted (by decide) (h dir rfl) (by decide)
  | noTools dir => exact not_mem_quoted (by decide) (h dir rfl) (by decide)
  | noStaticArchives => decide
  | exemptBinding dir => exact not_mem_quoted (by decide) (h dir rfl) (by decide)

lemma Bans.below {rule : PolicyRule} {p dir : Path} (h : rule.Bans p) (hdir : dir ∈ rule.dir?) :
    p.Below dir := by
  cases rule <;> cases hdir <;> first | exact h | exact h.elim

end PolicyRule

/-! ## Blocks -/

namespace Report

/-- A line below a heading. -/
def indent (l : Text) : Text :=
  "  ".toList ++ l

lemma newline_not_mem_indent {l : Text} (h : '\n' ∉ l) : '\n' ∉ indent l := by
  rw [indent, List.mem_append, not_or]
  exact ⟨by decide, h⟩

/-- Whether a line is below a heading. -/
def isIndented (l : Text) : Bool :=
  "  ".toList.isPrefixOf l

lemma isIndented_cons_eq_false {c : Char} (h : c ≠ ' ') (l : Text) :
    isIndented (c :: l) = false := by
  rw [isIndented]
  simp [List.isPrefixOf, h.symm]

/-- A heading and the lines of its block below it; nothing at all if there is no line. -/
def headed (heading : Text) (body : List Text) : List Text :=
  if body = [] then [] else heading :: body.map indent

/-- The lines of the block with a heading, if this block comes first, and what is behind it. -/
def readHeaded (heading : Text) : List Text → List Text × List Text
  | [] => ([], [])
  | l :: ls =>
    if l = heading then ((ls.takeWhile isIndented).map (·.drop 2), ls.dropWhile isIndented)
    else ([], l :: ls)

/-- If there is a line, then the first one is one of the given lines. -/
def Opens (firsts ls : List Text) : Prop :=
  ∀ l ∈ ls.head?, l ∈ firsts

section

variable {heading : Text} {body rest firsts : List Text}

lemma opens_headed (heading : Text) (body : List Text) (h : Opens firsts rest) :
    Opens (heading :: firsts) (headed heading body ++ rest) := by
  intro l hl
  rw [headed] at hl
  split at hl
  · exact List.mem_cons_of_mem _ (h l hl)
  · cases hl
    exact List.mem_cons_self

lemma eq_or_exists_of_mem_headed {l : Text} (h : l ∈ headed heading body) :
    l = heading ∨ ∃ b ∈ body, l = indent b := by
  rw [headed] at h
  split at h
  · cases h
  · rcases List.mem_cons.1 h with rfl | h
    · exact Or.inl rfl
    · obtain ⟨b, hb, rfl⟩ := List.mem_map.1 h
      exact Or.inr ⟨b, hb, rfl⟩

/-- A line that is not indented is in a block only as its heading. -/
lemma not_mem_headed {l : Text} (other : l ≠ heading) (flush : isIndented l = false) :
    l ∉ headed heading body := by
  intro h
  rcases eq_or_exists_of_mem_headed h with rfl | ⟨b, -, rfl⟩
  · exact other rfl
  · cases flush

lemma newline_not_mem_of_mem_headed (hheading : '\n' ∉ heading) (hbody : ∀ b ∈ body, '\n' ∉ b)
    {l : Text} (h : l ∈ headed heading body) : '\n' ∉ l := by
  rcases eq_or_exists_of_mem_headed h with rfl | ⟨b, hb, rfl⟩
  · exact hheading
  · exact newline_not_mem_indent (hbody b hb)

/-- Indented lines end where a line is not indented, whatever they say. -/
lemma span_indent (body : List Text) (h : ∀ l ∈ rest.head?, isIndented l = false) :
    (body.map indent ++ rest).takeWhile isIndented = body.map indent
      ∧ (body.map indent ++ rest).dropWhile isIndented = rest := by
  have hbody : ∀ l ∈ body.map indent, isIndented l = true := by
    intro l hl
    obtain ⟨b, -, rfl⟩ := List.mem_map.1 hl
    rfl
  rw [List.takeWhile_append_of_pos hbody, List.dropWhile_append_of_pos hbody]
  cases rest with
  | nil => simp
  | cons l ls => simp [h l rfl]

/-- **Taking a block off the front.**  What is behind the block has to begin with another line that is
not indented.  Then it does not matter what the lines of the block say, or whether there is a block. -/
lemma readHeaded_headed (other : heading ∉ firsts) (flush : ∀ l ∈ firsts, isIndented l = false)
    (h : Opens firsts rest) : readHeaded heading (headed heading body ++ rest) = (body, rest) := by
  by_cases hbody : body = []
  · subst hbody
    cases rest with
    | nil => rfl
    | cons l ls =>
        have hl : l ≠ heading := fun heq => other (heq ▸ h l rfl)
        rw [headed, if_pos rfl, List.nil_append, readHeaded, if_neg hl]
  · obtain ⟨htake, hdrop⟩ := span_indent body fun l hl => flush l (h l hl)
    have hdrop2 : (body.map indent).map (·.drop 2) = body := by
      rw [List.map_map]
      exact List.map_id body
    rw [headed, if_neg hbody, List.cons_append, readHeaded, if_pos rfl, htake, hdrop, hdrop2]

end

/-! ## Violations -/

/-- The line above the paths of a violation. -/
def violationHeading (v : Violation) : Text :=
  v.rule.message ++ [':']

def violationLines (v : Violation) : List Text :=
  violationHeading v :: v.paths.map indent

/-- Behind the message of a rule comes a colon, so there is always a first character. -/
lemma isIndented_violationHeading (v : Violation) : isIndented (violationHeading v) = false := by
  obtain ⟨l, hl⟩ := List.head?_eq_some_iff.1 v.rule.head?_message
  rw [violationHeading, hl]
  exact isIndented_cons_eq_false v.rule.initial_ne _

/-- The violations that lines are on, with their paths, and the paths in front of the first one. -/
def readViolations : List Text → List Path × List (Text × List Path)
  | [] => ([], [])
  | l :: ls =>
    let (paths, vs) := readViolations ls
    if isIndented l then (l.drop 2 :: paths, vs) else ([], (l, paths) :: vs)

lemma readViolations_indent (paths : List Path) (ls : List Text) :
    readViolations (paths.map indent ++ ls)
      = (paths ++ (readViolations ls).1, (readViolations ls).2) := by
  induction paths with
  | nil => rfl
  | cons p paths ih =>
      rw [List.map_cons, List.cons_append, readViolations, ih]
      rfl

lemma readViolations_lines (vs : List Violation) :
    readViolations (vs.flatMap violationLines)
      = ([], vs.map fun v => (violationHeading v, v.paths)) := by
  induction vs with
  | nil => rfl
  | cons v vs ih =>
      rw [List.flatMap_cons, violationLines, List.cons_append, readViolations,
        readViolations_indent, ih]
      simp [isIndented_violationHeading]

/-! ## The lines of a report -/

def missingHeading : Text :=
  "error: files missing from installation:".toList

def extraHeading : Text :=
  "error: unexpected files installed:".toList

def violationsHeading : Text :=
  "error: policy violations:".toList

/-- The text of a report, line by line. -/
def lines (r : Report) : List Text :=
  headed missingHeading r.missing.toList
    ++ (headed extraHeading r.extra.toList
    ++ (headed violationsHeading (r.violations.flatMap violationLines)
    ++ if r.passed then [success] else []))

lemma sectionText_eq (heading : Text) (m : Manifest) :
    sectionText heading m
      = (headed ("error: ".toList ++ heading ++ [':']) m.toList).flatMap line := by
  rw [sectionText, headed, Manifest.isEmpty]
  cases m.toList with
  | nil => rfl
  | cons p ps => simp [List.flatMap_map, indent]

lemma violationText_eq (v : Violation) :
    violationText v = ((violationLines v).map indent).flatMap line := by
  rw [violationText, violationLines, List.map_cons, List.flatMap_cons, List.map_map,
    List.flatMap_map]
  rfl

lemma violationsText_eq (vs : List Violation) :
    violationsText vs = (headed violationsHeading (vs.flatMap violationLines)).flatMap line := by
  have hlines : vs.flatMap violationText
      = ((vs.flatMap violationLines).map indent).flatMap line := by
    rw [List.map_flatMap, List.flatMap_assoc, funext violationText_eq]
  rw [violationsText, headed, hlines]
  cases vs with
  | nil => rfl
  | cons v vs => rfl

lemma text_eq (r : Report) : r.text = r.lines.flatMap line := by
  have hsuccess : (if r.passed then line success else [])
      = (if r.passed then [success] else []).flatMap line := by
    split
    · exact (List.flatMap_singleton line success).symm
    · rfl
  rw [text, lines, sectionText_eq, sectionText_eq, violationsText_eq, hsuccess]
  simp only [List.flatMap_append, List.append_assoc]
  rfl

/-- The paths and messages of a report are single lines. -/
structure SingleLined (r : Report) : Prop where
  missing : ∀ p ∈ r.missing, '\n' ∉ p
  extra : ∀ p ∈ r.extra, '\n' ∉ p
  message : ∀ v ∈ r.violations, '\n' ∉ v.rule.message
  paths : ∀ v ∈ r.violations, ∀ p ∈ v.paths, '\n' ∉ p

lemma SingleLined.newline_not_mem {r : Report} (h : r.SingleLined) {l : Text} (hl : l ∈ r.lines) :
    '\n' ∉ l := by
  have hviolations : ∀ l ∈ r.violations.flatMap violationLines, '\n' ∉ l := by
    intro l hl
    obtain ⟨v, hv, hl⟩ := List.mem_flatMap.1 hl
    rcases List.mem_cons.1 hl with rfl | hl
    · rw [violationHeading, List.mem_append, not_or]
      exact ⟨h.message v hv, by decide⟩
    · obtain ⟨p, hp, rfl⟩ := List.mem_map.1 hl
      exact newline_not_mem_indent (h.paths v hv p hp)
  rw [lines, List.mem_append, List.mem_append, List.mem_append] at hl
  rcases hl with hl | hl | hl | hl
  · exact newline_not_mem_of_mem_headed (by decide) h.missing hl
  · exact newline_not_mem_of_mem_headed (by decide) h.extra hl
  · exact newline_not_mem_of_mem_headed (by decide) hviolations hl
  · split at hl
    · rw [List.mem_singleton.1 hl]
      decide
    · cases hl

lemma SingleLined.splitOn_text {r : Report} (h : r.SingleLined) :
    r.text.splitOn '\n' = r.lines ++ [[]] := by
  rw [text_eq]
  exact Text.splitOn_lines fun l hl => h.newline_not_mem hl

/-- The line of a report without complaints occurs in no other report, even if a path reads like it. -/
lemma success_mem_lines_iff (r : Report) : success ∈ r.lines ↔ r.passed = true := by
  rw [lines, List.mem_append, List.mem_append, List.mem_append]
  constructor
  · rintro (h | h | h | h)
    · exact absurd h (not_mem_headed (by decide) rfl)
    · exact absurd h (not_mem_headed (by decide) rfl)
    · exact absurd h (not_mem_headed (by decide) rfl)
    · split at h
      · assumption
      · cases h
  · intro h
    rw [if_pos h]
    exact Or.inr (Or.inr (Or.inr List.mem_cons_self))

/-! ## Reading -/

/-- What a reader learns from the text of a report: what is missing, what is extra, and the violations,
each as the line above its paths and these paths. -/
structure Findings where
  missing : List Path
  extra : List Path
  violations : List (Text × List Path)

def findings (r : Report) : Findings :=
  ⟨r.missing.toList, r.extra.toList, r.violations.map fun v => (violationHeading v, v.paths)⟩

/-- Take the text of a report apart, block by block. -/
def read (t : Text) : Findings :=
  let missing := readHeaded missingHeading (t.splitOn '\n').dropLast
  let extra := readHeaded extraHeading missing.2
  let violations := readHeaded violationsHeading extra.2
  ⟨missing.1, extra.1, (readViolations violations.1).2⟩

/-- **The text of a report can be read back.** -/
theorem read_text {r : Report} (h : r.SingleLined) : read r.text = r.findings := by
  have hrest : Opens [success] (if r.passed then [success] else []) := by
    intro l hl
    split at hl
    · exact List.mem_of_mem_head? hl
    · cases hl
  have hviolations := opens_headed violationsHeading (r.violations.flatMap violationLines) hrest
  have hextra := opens_headed extraHeading r.extra.toList hviolations
  rw [read, h.splitOn_text, List.dropLast_concat, lines,
    readHeaded_headed (by decide) (by decide) hextra]
  dsimp only
  rw [readHeaded_headed (by decide) (by decide) hviolations]
  dsimp only
  rw [readHeaded_headed (by decide) (by decide) hrest, readViolations_lines]
  rfl

/-- **What two reports have in common when they complain of the same things.** -/
structure Agrees (r r' : Report) : Prop where
  missing : r.missing = r'.missing
  extra : r.extra = r'.extra
  /-- The same rules with the same directories are broken by the same paths. -/
  violations : r.violations = r'.violations
  passed : r.passed = r'.passed
  status : r.status = r'.status

lemma agrees_of_parts {r r' : Report} (missing : r.missing = r'.missing) (extra : r.extra = r'.extra)
    (violations : r.violations = r'.violations) : r.Agrees r' := by
  have hpassed : r.passed = r'.passed := by
    rw [passed, missing, extra, violations, passed]
  exact ⟨missing, extra, violations, hpassed, by rw [status, hpassed, status]⟩

/-- A reader learns everything that a report complains of. -/
lemma agrees_of_findings_eq {r r' : Report} (h : r.findings = r'.findings) : r.Agrees r' := by
  rw [findings, findings, Findings.mk.injEq] at h
  obtain ⟨hmissing, hextra, hviolations⟩ := h
  have hinjective : Function.Injective fun v : Violation => (violationHeading v, v.paths) := by
    rintro ⟨rule, paths⟩ ⟨rule', paths'⟩ hv
    obtain ⟨hheading, rfl : paths = paths'⟩ := Prod.mk.inj hv
    obtain rfl : rule = rule' :=
      PolicyRule.message_injective (List.append_cancel_right hheading)
    rfl
  exact agrees_of_parts (Manifest.toList_injective hmissing) (Manifest.toList_injective hextra)
    (List.map_injective_iff.2 hinjective hviolations)

lemma Agrees.text_eq {r r' : Report} (h : r.Agrees r') : r.text = r'.text := by
  rw [text, text, h.missing, h.extra, h.violations, h.passed]

/-- Two reports of single lines have the same text exactly if they agree. -/
lemma SingleLined.text_eq_iff {r r' : Report} (h : r.SingleLined) (h' : r'.SingleLined) :
    r.text = r'.text ↔ r.Agrees r' := by
  refine ⟨fun heq => agrees_of_findings_eq ?_, Agrees.text_eq⟩
  rw [← read_text h, heq, read_text h']

/-- The text has the line of a report without complaints exactly if the exit status is zero. -/
lemma SingleLined.success_mem_iff {r : Report} (h : r.SingleLined) :
    success ∈ r.text.splitOn '\n' ↔ r.status = 0 := by
  have hblank : success ∉ [([] : Text)] := by decide
  rw [h.splitOn_text, List.mem_append, or_iff_left hblank, success_mem_lines_iff, status]
  split <;> simp_all

end Report

/-! ## Reconciliations -/

section

variable {G R : Manifest} {o : BuildOptions}

/-- A rule is reported only if some installed path breaks it. -/
lemma exists_bans_of_mem_violations {v : Violation} (h : v ∈ (reconcile G R o).violations) :
    ∃ p ∈ G, v.rule.Bans p := by
  rw [reconcile, violations_policy] at h
  obtain ⟨rule, hrule, rfl⟩ := List.mem_map.1 h
  exact (of_decide_eq_true (List.mem_filter.1 hrule).2).2

/-- The reports on manifests of single lines consist of single lines. -/
lemma singleLined_reconcile (hG : ∀ p ∈ G, '\n' ∉ p) (hR : ∀ p ∈ R, '\n' ∉ p) :
    (reconcile G R o).SingleLined where
  missing p hp := hR p ((mem_missing G R o p).1 hp).1.1
  extra p hp := hG p ((mem_extra G R o p).1 hp).1
  message v hv := by
    obtain ⟨p, hp, hbans⟩ := exists_bans_of_mem_violations hv
    -- the path that breaks the rule has the characters of the directory in the message
    refine PolicyRule.newline_not_mem_message fun dir hdir hmem => hG p hp ?_
    exact (hbans.below hdir).mem (by decide) hmem
  paths v hv p hp := hG p (mem_of_mem_violation hv hp)

end

/-- **The text of a report loses nothing.**  Take any two reconciliations of manifests whose paths are
single lines, under any options.  If their texts are the same, then so are what is missing, what is
extra, the violations, the verdict and the exit status; and the text has the line of a report without
complaints exactly if the exit status is zero. -/
theorem report_legible {G R G' R' : Manifest} (o o' : BuildOptions) (hG : ∀ p ∈ G, '\n' ∉ p)
    (hR : ∀ p ∈ R, '\n' ∉ p) (hG' : ∀ p ∈ G', '\n' ∉ p) (hR' : ∀ p ∈ R', '\n' ∉ p) :
    ((reconcile G R o).text = (reconcile G' R' o').text
        ↔ (reconcile G R o).Agrees (reconcile G' R' o'))
      ∧ (Report.success ∈ (reconcile G R o).text.splitOn '\n' ↔ (reconcile G R o).status = 0) := by
  have hlines := singleLined_reconcile (o := o) hG hR
  have hlines' := singleLined_reconcile (o := o') hG' hR'
  exact ⟨hlines.text_eq_iff hlines', hlines.success_mem_iff⟩

/-- A path that reads like the line of a report without complaints is not taken for it, and a
violation is seen although the directory has a quote in it and the path begins with blanks. -/
theorem report_legible_odd_names :
    let quoted : BuildOptions :=
      { switches := { defaultSwitches with docs := false },
        layout := { defaultLayout with docs := "it's".toList } }
    let installed : Manifest := .ofList ["  lib/it's/a".toList]
    let expected : Manifest := .ofList [Report.success]
    (reconcile installed expected quoted).text ≠ (reconcile installed expected {}).text
      ∧ Report.success ∉ (reconcile installed expected quoted).text.splitOn '\n' := by
  intro quoted installed expected
  have hinstalled : ∀ p ∈ installed, '\n' ∉ p := by decide
  have hexpected : ∀ p ∈ expected, '\n' ∉ p := by decide
  obtain ⟨htext, hsuccess⟩ :=
    report_legible quoted {} hinstalled hexpected hinstalled hexpected
  have hviolations : (reconcile installed expected quoted).violations
      ≠ (reconcile installed expected {}).violations := by decide
  have hstatus : (reconcile installed expected quoted).status ≠ 0 := by decide
  exact ⟨fun heq => hviolations (htext.1 heq).violations, fun hmem => hstatus (hsuccess.1 hmem)⟩

end InstallAudit
