import InstallAudit.Digest
import InstallAudit.Policy

/-!
# Reports

A reconciliation compares what was installed with a reference.

* `reconcile` — the report on two manifests under the options of a build.
* `Report.passed` — nothing is missing, nothing is extra and no rule is broken.
* `Report.text` — the report as lines for a reader.
* `Report.status` — the exit status of a report.
-/

namespace InstallAudit

/-- The size and digest of a manifest. -/
structure Summary where
  entries : Nat
  digest : Text
  deriving DecidableEq

def Manifest.summary (m : Manifest) : Summary :=
  ⟨m.size, m.digest⟩

/-- The outcome of a reconciliation. -/
structure Report where
  /-- What was installed. -/
  generated : Summary
  /-- What ought to be installed. -/
  reference : Summary
  /-- Entries of the reference that are not installed and may not be missing. -/
  missing : Manifest
  /-- Installed entries that the reference does not have. -/
  extra : Manifest
  /-- Entries of the reference that are not installed and may be missing. -/
  exempted : Manifest
  /-- The rules that the installed entries break. -/
  violations : List Violation
  deriving DecidableEq

/-- Compare what was installed with a reference. -/
def reconcile (generated reference : Manifest) (o : BuildOptions) : Report :=
  let absent := reference.difference generated
  { generated := generated.summary
    reference := reference.summary
    missing := absent.filter fun p => !isExempt o.policy p
    extra := generated.difference reference
    exempted := absent.filter (isExempt o.policy)
    violations := InstallAudit.violations o.policy generated }

namespace Report

/-- Whether a report has nothing to complain about. -/
def passed (r : Report) : Bool :=
  r.missing.isEmpty && r.extra.isEmpty && r.violations.isEmpty

def status (r : Report) : Nat :=
  if r.passed then 0 else 1

/-! ## The text of a report -/

/-- A line, ended by a line feed. -/
def line (t : Text) : Text :=
  t ++ ['\n']

/-- A heading and the entries below it; nothing at all if there is no entry. -/
def sectionText (heading : Text) (entries : Manifest) : Text :=
  if entries.isEmpty then []
  else line ("error: ".toList ++ heading ++ [':'])
    ++ entries.toList.flatMap fun p => line ("  ".toList ++ p)

def violationText (v : Violation) : Text :=
  line ("  ".toList ++ v.rule.message ++ [':'])
    ++ v.paths.flatMap fun p => line ("    ".toList ++ p)

/-- The lines on all violations; nothing at all if there is none. -/
def violationsText (vs : List Violation) : Text :=
  if vs.isEmpty then []
  else line "error: policy violations:".toList ++ vs.flatMap violationText

/-- The line of a report without complaints. -/
def success : Text :=
  "success: the installed files match the reference manifest".toList

/-- The report as lines for a reader. -/
def text (r : Report) : Text :=
  sectionText "files missing from installation".toList r.missing
    ++ sectionText "unexpected files installed".toList r.extra
    ++ violationsText r.violations
    ++ if r.passed then line success else []

/-- The counts of everything that made a check fail. -/
def counts (r : Report) : Text :=
  Text.ofNat r.missing.size ++ " missing, ".toList
    ++ Text.ofNat r.extra.size ++ " extra, ".toList
    ++ Text.ofNat r.violations.length ++ " policy violation(s)".toList

end Report

end InstallAudit
