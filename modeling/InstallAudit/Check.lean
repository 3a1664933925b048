import InstallAudit.Log
import InstallAudit.Profile
import InstallAudit.Report

/-!
# Checking files

A check reads two listings from files, normalizes both and reconciles them.  On the way it writes
a log.

* `loadFile`, `loadNormalized` — the manifest of a file, as it is read and normalized.
* `checkFiles` — the report on two files.
* `RunError` — why there is no report.
-/

namespace InstallAudit

/-! ## Errors -/

/-- Why a listing cannot be read. -/
inductive ManifestError where
  | notFound (p : Path)
  /-- The file is there but cannot be read. -/
  | unreadable (p : Path) (e : FileError)
  deriving DecidableEq

def ManifestError.message : ManifestError → Text
  | notFound p => "manifest file not found: ".toList ++ p
  | unreadable p e => "failed to read manifest file ".toList ++ p ++ ": ".toList ++ e.message

/-- Why a run has no result. -/
inductive RunError where
  | manifest (e : ManifestError)
  | config (e : ConfigError)
  deriving DecidableEq

def RunError.message : RunError → Text
  | manifest e => "manifest error: ".toList ++ e.message
  | config e => "config error: ".toList ++ e.message

/-! ## Loading -/

/-- A result and what was said on the way to it. -/
structure Logged (α : Type) where
  result : α
  log : List Event

/-- The error for a file that cannot be read. -/
def ManifestError.of (p : Path) : FileError → ManifestError
  | .missing => .notFound p
  | e => .unreadable p e

/-- The warning about a marker that occurs in no path. -/
def markerWarning (o : LoadOptions) (p : Path) (s : Scan) : List Event :=
  match o.rootMarker with
  | some marker =>
    if o.fruitless s then
      [⟨.warn, .listing, p ++ ": install root marker '".toList ++ marker
        ++ "' did not match any absolute path".toList⟩]
    else []
  | none => []

def loadFile (read : FileReader) (o : LoadOptions) (p : Path) :
    Logged (Except ManifestError Manifest) :=
  match readText read p with
  | .error e => ⟨.error (.of p e), []⟩
  | .ok listing =>
    let s := o.scan listing
    ⟨.ok s.entries, markerWarning o p s ++
      [⟨.debug, .listing,
        "loaded ".toList ++ Text.ofNat s.entries.size ++ " entries from ".toList ++ p⟩]⟩

/-- What is said about a manifest that was normalized. -/
def normalizeLog (p : Path) (raw normal : Manifest) : List Event :=
  ⟨.debug, .check, p ++ ": ".toList ++ Text.ofNat raw.size ++ " raw entries, ".toList
    ++ Text.ofNat normal.size ++ " after normalization".toList⟩
    :: normal.toList.map fun x => ⟨.trace, .check, "  ".toList ++ x⟩

/-- The normalized manifest of a file. -/
def loadNormalized (read : FileReader) (c : Config) (p : Path) :
    Logged (Except ManifestError Manifest) :=
  let raw := loadFile read c.load p
  match raw.result with
  | .error e => ⟨.error e, raw.log⟩
  | .ok m =>
    let normal := c.normalize.normalizer.apply m
    ⟨.ok normal, raw.log ++ normalizeLog p m normal⟩

/-! ## Reconciling -/

/-- What is said about a reconciliation. -/
def reportLog (r : Report) : List Event :=
  (r.exempted.toList.map fun p => ⟨.debug, .reconciliation, "exempt from missing: ".toList ++ p⟩)
    ++ [⟨.info, .reconciliation,
      "reconciled ".toList ++ Text.ofNat r.generated.entries ++ " generated against ".toList
        ++ Text.ofNat r.reference.entries ++ " reference entries: ".toList
        ++ Text.ofNat r.missing.size ++ " missing, ".toList
        ++ Text.ofNat r.extra.size ++ " extra, ".toList
        ++ Text.ofNat r.violations.length ++ " policy violations".toList⟩]

/-- The report on two files.  Both are read in any case; if neither can be read, the error is
about the generated one. -/
def checkFiles (read : FileReader) (c : Config) (generated reference : Path) :
    Logged (Except ManifestError Report) :=
  let g := loadNormalized read c generated
  let r := loadNormalized read c reference
  match g.result, r.result with
  | .error e, _ => ⟨.error e, g.log ++ r.log⟩
  | .ok _, .error e => ⟨.error e, g.log ++ r.log⟩
  | .ok gm, .ok rm =>
    let report := reconcile gm rm c.build
    ⟨.ok report, g.log ++ r.log ++ reportLog report⟩

end InstallAudit
