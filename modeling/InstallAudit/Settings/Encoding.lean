import InstallAudit.Profile
import InstallAudit.Report

/-!
# Settings and reports as documents

Each value of the settings has one written form, a document.  Optional values that are not set are
written as null.
-/

namespace InstallAudit

open Document (ofOption)

/-- A record as a document. -/
def Document.record (fields : List (String × Document)) : Document :=
  .table (fields.map fun (name, d) => (name.toList, d))

def Document.texts (ts : List Text) : Document :=
  .array (ts.map .string)

namespace Settings

/-! ## Settings -/

def scopeWord : SuffixScope → Text
  | .libraryDir => "library-dir".toList
  | .anywhere => "anywhere".toList

def encodeScope (s : SuffixScope) : Document :=
  .string (scopeWord s)

def encodeLoad (o : LoadOptions) : Document :=
  .record
    [("exclude", .texts o.exclude),
     ("root_marker", ofOption .string o.rootMarker),
     ("install_prefix", ofOption .string o.installPrefix)]

def encodeNormalize (o : NormalizeOptions) : Document :=
  .record
    [("library_suffix", ofOption .string o.librarySuffix),
     ("library_suffix_scope", encodeScope o.scope)]

def encodeLayout (d : Directories Path) : Document :=
  .record
    [("examples_dir", .string d.examples),
     ("tools_dir", .string d.tools),
     ("docs_dir", .string d.docs),
     ("binding_dir", .string d.binding)]

def encodeBuild (o : BuildOptions) : Document :=
  .record
    [("shared_libs", .boolean o.switches.sharedLibs),
     ("pkg_config", .boolean o.switches.pkgConfig),
     ("docs", .boolean o.switches.docs),
     ("examples", .boolean o.switches.examples),
     ("tools", .boolean o.switches.tools),
     ("bindings", .boolean o.switches.bindings),
     ("layout", encodeLayout o.layout)]

def encodeSwitches (s : Switches (Option Bool)) : Document :=
  .record
    [("shared_libs", ofOption .boolean s.sharedLibs),
     ("pkg_config", ofOption .boolean s.pkgConfig),
     ("docs", ofOption .boolean s.docs),
     ("examples", ofOption .boolean s.examples),
     ("tools", ofOption .boolean s.tools),
     ("bindings", ofOption .boolean s.bindings)]

def encodeSection (n : NormalizeSection) : Document :=
  .record
    [("install_prefix", ofOption .string n.installPrefix),
     ("root_marker", ofOption .string n.rootMarker),
     ("exclude", .texts n.exclude),
     ("library_suffix", ofOption .string n.librarySuffix),
     ("library_suffix_scope", ofOption encodeScope n.scope)]

def encodeProfile (p : Profile) : Document :=
  .record
    [("options", encodeSwitches p.switches),
     ("layout", encodeLayout p.layout),
     ("normalize", encodeSection p.normalize)]

def encodeManifest (m : Manifest) : Document :=
  .texts m.toList

/-! ## Reports -/

def encodeSummary (s : Summary) : Document :=
  .record [("entries", .integer s.entries), ("digest", .string s.digest)]

/-- The written form of a violation: the rule with its directory, what it says, and the paths. -/
def encodeViolation (v : Violation) : Document :=
  .record <|
    [("rule", .string v.rule.tag)]
      ++ (v.rule.dir?.map fun dir => ("dir", .string dir)).toList
      ++ [("message", .string v.rule.message), ("paths", .texts v.paths)]

def encodeReport (r : Report) : Document :=
  .record
    [("generated", encodeSummary r.generated),
     ("reference", encodeSummary r.reference),
     ("missing", encodeManifest r.missing),
     ("extra", encodeManifest r.extra),
     ("exempted", encodeManifest r.exempted),
     ("violations", .array (r.violations.map encodeViolation)),
     ("passed", .boolean r.passed)]

end Settings

end InstallAudit
