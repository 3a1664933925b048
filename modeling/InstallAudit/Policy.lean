import InstallAudit.Build
import InstallAudit.Manifest

/-!
# Policies

What was switched off must not be installed, and what cannot be there must not be missed.  Each
switch of a build that differs from the default gives one policy rule.

* `PolicyRule.forbids` — whether a rule forbids a path.
* `BuildOptions.policy` — the rules of a build, in a fixed order.
* `violations` — the rules that a manifest breaks, each with the paths that break it.
* `exemptDirs`, `isExempt` — the directories whose entries may be missing.
-/

namespace InstallAudit

/-! ## Rules -/

/-- One demand on the installed files. -/
inductive PolicyRule where
  | noPkgConfig
  | noDocs (dir : Path)
  | noExamples (dir : Path)
  | noTools (dir : Path)
  | noStaticArchives
  /-- What belongs in the directory of the binding may be missing. -/
  | exemptBinding (dir : Path)
  deriving DecidableEq

namespace PolicyRule

def forbids : PolicyRule → Path → Bool
  | noPkgConfig, p => p.hasExtension ".pc".toList
  | noStaticArchives, p => p.hasExtension ".a".toList
  | noDocs dir, p => p.isUnder dir
  | noExamples dir, p => p.isUnder dir
  | noTools dir, p => p.isUnder dir
  | exemptBinding _, _ => false

def message : PolicyRule → Text
  | noPkgConfig => "pkg-config file installed but pkg-config generation is disabled".toList
  | noDocs dir =>
    "files in '".toList ++ dir ++ "' installed but documentation is disabled".toList
  | noExamples dir =>
    "files in '".toList ++ dir ++ "' installed but examples are disabled".toList
  | noTools dir => "files in '".toList ++ dir ++ "' installed but tools are disabled".toList
  | noStaticArchives =>
    "static library files (.a) installed in a shared-only build".toList
  | exemptBinding dir =>
    "entries under '".toList ++ dir ++ "' exempt because the binding is disabled".toList

/-- The short name of a rule in structured reports. -/
def tag : PolicyRule → Text
  | noPkgConfig => "forbid_pkg_config".toList
  | noDocs _ => "forbid_docs".toList
  | noExamples _ => "forbid_examples".toList
  | noTools _ => "forbid_tools".toList
  | noStaticArchives => "forbid_static_archives".toList
  | exemptBinding _ => "exempt_binding".toList

/-- The directory that a rule speaks of. -/
def dir? : PolicyRule → Option Path
  | noDocs dir => some dir
  | noExamples dir => some dir
  | noTools dir => some dir
  | exemptBinding dir => some dir
  | noPkgConfig => none
  | noStaticArchives => none

/-- The directory whose entries a rule allows to be missing. -/
def exempts? : PolicyRule → Option Path
  | exemptBinding dir => some dir
  | _ => none

end PolicyRule

/-- The rules of a build, in a fixed order. -/
def BuildOptions.policy (o : BuildOptions) : List PolicyRule :=
  (if o.switches.pkgConfig then [] else [.noPkgConfig])
    ++ (if o.switches.docs then [] else [.noDocs o.layout.docs])
    ++ (if o.switches.examples then [] else [.noExamples o.layout.examples])
    ++ (if o.switches.tools then [] else [.noTools o.layout.tools])
    ++ (if o.switches.sharedLibs then [.noStaticArchives] else [])
    ++ (if o.switches.bindings then [] else [.exemptBinding o.layout.binding])

/-! ## Violations -/

/-- A rule that was broken, and the paths that broke it. -/
structure Violation where
  rule : PolicyRule
  /-- The offending paths in increasing order. -/
  paths : List Path
  deriving DecidableEq

/-- One line on a violation. -/
def Violation.line (v : Violation) : Text :=
  v.rule.message ++ ": ".toList ++ List.intercalate ", ".toList v.paths

/-- The violation of a rule by a manifest, if there is one. -/
def PolicyRule.violation? (rule : PolicyRule) (installed : Manifest) : Option Violation :=
  match installed.toList.filter rule.forbids with
  | [] => none
  | paths => some ⟨rule, paths⟩

def violations (rules : List PolicyRule) (installed : Manifest) : List Violation :=
  rules.filterMap fun rule => rule.violation? installed

/-! ## Exemptions -/

def exemptDirs (rules : List PolicyRule) : List Path :=
  rules.filterMap PolicyRule.exempts?

def isExempt (rules : List PolicyRule) (p : Path) : Bool :=
  (exemptDirs rules).any fun dir => p.isUnder dir

end InstallAudit
