import InstallAudit.Settings.Encoding
import InstallAudit.Toml.Reader

/-!
# Documents as settings

Every value of the settings can be read from a document.  The same readers serve TOML and JSON.

* `flag` — a switch of a profile: a truth value, or one of the words for it.
* `scope` — the word for a scope.
* `profile`, `build`, `load`, `normalize`, `layout`, `manifest` — the readers of the records.
* `profileOf` — the profile of a configuration text.
-/

namespace InstallAudit

namespace Settings

/-! ## Choices -/

/-- A switch of a profile. -/
def flag : Decoder Bool
  | _, .boolean b => .ok b
  | _, .string t =>
    match flag? t with
    | some b => .ok b
    | none => .error (.invalidFlag t)
  | _, _ => .error .noFlag

/-- The scopes by their words. -/
def scopes : List (Text × SuffixScope) :=
  [SuffixScope.libraryDir, .anywhere].map fun s => (scopeWord s, s)

/-- The scope with a given word. -/
def scopeNamed (name : Text) : Except DecodeError SuffixScope :=
  match scopes.lookup name with
  | some s => .ok s
  | none => .error (.unknownVariant name (scopes.map Prod.fst))

/-- The type of a value, in the words of TOML. -/
def typeWord : Document → Text
  | .null => "null".toList
  | .boolean _ => "boolean".toList
  | .integer _ => "integer".toList
  | .float _ => "float".toList
  | .string _ => "string".toList
  | .datetime _ => "datetime".toList
  | .array _ => "array".toList
  | .tables _ => "array of tables".toList
  | .table _ => "table".toList

/-- What may stand under the word for a scope in a table: nothing. -/
def vacant : Format → Document → Except DecodeError Unit
  | .toml, .table [] => .ok ()
  | .toml, .table (_ :: _) => .error .loadedChoice
  | .toml, .array [] => .ok ()
  | .toml, .array (_ :: _) => .error .loadedChoice
  | .toml, .tables [] => .ok ()
  | .toml, .tables (_ :: _) => .error .headedChoice
  | .toml, d => .error (.valuedChoice (typeWord d))
  | .json, .null => .ok ()
  | .json, d => .error (.wrongType (d.shape .json) "unit".toList)

/-- A scope: its word, or a table with nothing under its word. -/
def scope : Decoder SuffixScope
  | _, .string t => scopeNamed t
  | f, .table [(name, d)] => do
    let s ← scopeNamed name
    vacant f d
    .ok s
  | .toml, .table [] => .error .emptyChoice
  | .toml, .table _ => .error .crowdedChoice
  | .toml, _ => .error .noChoice
  | .json, .table _ => .error (.wrongValue "map".toList "map with a single key".toList)
  | .json, d => .error (.wrongType (d.shape .json) "string or map".toList)

/-! ## Records -/

def loadSchema : Schema LoadOptions where
  title := "struct LoadOptions".toList
  fields :=
    [.of "exclude" (.list .text) fun v o => { o with exclude := v },
     .of "root_marker" (.optional .text) fun v o => { o with rootMarker := v },
     .of "install_prefix" (.optional .text) fun v o => { o with installPrefix := v }]

def load : Decoder LoadOptions :=
  loadSchema.decode {}

def normalizeSchema : Schema NormalizeOptions where
  title := "struct NormalizeOptions".toList
  fields :=
    [.of "library_suffix" (.optional .text) fun v o => { o with librarySuffix := v },
     .of "library_suffix_scope" scope fun v o => { o with scope := v }]

def normalize : Decoder NormalizeOptions :=
  normalizeSchema.decode {}

def layoutSchema : Schema (Directories Path) where
  title := "struct InstallLayout".toList
  fields :=
    [.of "examples_dir" .text fun v d => { d with examples := v },
     .of "tools_dir" .text fun v d => { d with tools := v },
     .of "docs_dir" .text fun v d => { d with docs := v },
     .of "binding_dir" .text fun v d => { d with binding := v }]

def layout : Decoder (Directories Path) :=
  layoutSchema.decode defaultLayout

def switchesSchema : Schema (Switches (Option Bool)) where
  title := "struct OptionsSection".toList
  fields :=
    [.of "shared_libs" (.optional flag) fun v s => { s with sharedLibs := v },
     .of "pkg_config" (.optional flag) fun v s => { s with pkgConfig := v },
     .of "docs" (.optional flag) fun v s => { s with docs := v },
     .of "examples" (.optional flag) fun v s => { s with examples := v },
     .of "tools" (.optional flag) fun v s => { s with tools := v },
     .of "bindings" (.optional flag) fun v s => { s with bindings := v }]

def switches : Decoder (Switches (Option Bool)) :=
  switchesSchema.decode openSwitches

def sectionSchema : Schema NormalizeSection where
  title := "struct NormalizeSection".toList
  fields :=
    [.of "install_prefix" (.optional .text) fun v n => { n with installPrefix := v },
     .of "root_marker" (.optional .text) fun v n => { n with rootMarker := v },
     .of "exclude" (.list .text) fun v n => { n with exclude := v },
     .of "library_suffix" (.optional .text) fun v n => { n with librarySuffix := v },
     .of "library_suffix_scope" (.optional scope) fun v n => { n with scope := v }]

/-- What a profile says about listings. -/
def listings : Decoder NormalizeSection :=
  sectionSchema.decode {}

def profileSchema : Schema Profile where
  title := "struct CheckProfile".toList
  fields :=
    [.of "options" switches fun v p => { p with switches := v },
     .of "layout" layout fun v p => { p with layout := v },
     .of "normalize" listings fun v p => { p with normalize := v }]

def profile : Decoder Profile :=
  profileSchema.decode {}

/-! ## The options of a build

These options have no defaults: every field has to be there.  Other fields are tolerated. -/

/-- The options of a build as far as they have been read. -/
structure BuildDraft where
  switches : Switches (Option Bool) := openSwitches
  layout : Option (Directories Path) := none

def buildSchema : Schema BuildDraft where
  title := "struct BuildOptions".toList
  closed := false
  fields :=
    [.of "shared_libs" .boolean fun v d => { d with switches.sharedLibs := some v },
     .of "pkg_config" .boolean fun v d => { d with switches.pkgConfig := some v },
     .of "docs" .boolean fun v d => { d with switches.docs := some v },
     .of "examples" .boolean fun v d => { d with switches.examples := some v },
     .of "tools" .boolean fun v d => { d with switches.tools := some v },
     .of "bindings" .boolean fun v d => { d with switches.bindings := some v },
     .of "layout" layout fun v d => { d with layout := some v }]

/-- The value of a field, which has to be there. -/
def required {α : Type} (name : String) : Option α → Except DecodeError α
  | some a => .ok a
  | none => .error (.missingField name.toList)

/-- The options of a build from a draft in which every field has been read. -/
def BuildDraft.finish (d : BuildDraft) : Except DecodeError BuildOptions := do
  let sharedLibs ← required "shared_libs" d.switches.sharedLibs
  let pkgConfig ← required "pkg_config" d.switches.pkgConfig
  let docs ← required "docs" d.switches.docs
  let examples ← required "examples" d.switches.examples
  let tools ← required "tools" d.switches.tools
  let bindings ← required "bindings" d.switches.bindings
  let layout ← required "layout" d.layout
  .ok ⟨⟨sharedLibs, pkgConfig, docs, examples, tools, bindings⟩, layout⟩

/-- The number of items of an array that has fewer items than there are fields. -/
def shortLength? {α : Type} (s : Schema α) : Document → Option Nat
  | .array items => if items.length < s.fields.length then some items.length else none
  | .tables items => if items.length < s.fields.length then some items.length else none
  | _ => none

def build : Decoder BuildOptions := fun f d => do
  let draft ← buildSchema.decode {} f d
  match shortLength? buildSchema d with
  | some n => .error (.wrongLength n "struct BuildOptions with 7 elements".toList)
  | none => draft.finish

/-! ## Manifests -/

/-- A manifest: its entries in any order, with repetitions. -/
def manifest : Decoder Manifest := fun f d =>
  (Decoder.list Decoder.text f d).map Manifest.ofList

/-! ## Configuration files -/

/-- The profile of a configuration text. -/
def profileOf (t : Text) : Except ConfigError Profile :=
  match Toml.document? t with
  | none => .error .notToml
  | some d => (profile .toml d).mapError .malformed

/-- The profile of a configuration file. -/
def profileAt (read : FileReader) (p : Path) : Except ConfigError Profile := do
  profileOf (← (readText read p).mapError .unreadable)

/-! ## Words on a command line -/

/-- The scope that a word names, in any case and with blanks around it.  Both scopes have a short
word, too. -/
def scopeOf? (value : Text) : Option SuffixScope :=
  let word := value.trim.foldLower
  if word = "library-dir".toList ∨ word = "lib".toList then some .libraryDir
  else if word = "anywhere".toList ∨ word = "any".toList then some .anywhere
  else none

/-- What is said of a text that names no scope. -/
def scopeMessage (value : Text) : Text :=
  "invalid library suffix scope '".toList ++ value.trim.foldLower
    ++ "', expected 'library-dir' or 'anywhere'".toList

end Settings

end InstallAudit
