import InstallAudit.Build
import InstallAudit.Document.Schema
import InstallAudit.Files
import InstallAudit.Listing
import InstallAudit.Normalizer

/-!
# Profiles

A profile describes how the files of one package are checked: the switches of its build, the
directories that it installs into, and how its listings are read and normalized.  Whatever a
profile leaves open has a default.

* `Profile` — what a configuration file says.
* `Profile.build` — the options of the build, if no directory is empty.
* `Profile.loadOptions`, `Profile.normalizeOptions` — how listings are read and normalized.
* `Config` — everything that a check needs to know.
-/

namespace InstallAudit

/-- How listings are read and normalized, as far as a profile says. -/
structure NormalizeSection where
  installPrefix : Option Text := none
  rootMarker : Option Text := none
  exclude : List Text := []
  librarySuffix : Option Text := none
  scope : Option SuffixScope := none
  deriving DecidableEq, Inhabited

/-- The switches of a profile that leaves all of them open. -/
def openSwitches : Switches (Option Bool) :=
  ⟨none, none, none, none, none, none⟩

/-- What a configuration file says. -/
structure Profile where
  switches : Switches (Option Bool) := openSwitches
  layout : Directories Path := defaultLayout
  normalize : NormalizeSection := {}
  deriving DecidableEq

instance : Inhabited Profile := ⟨{}⟩

/-! ## Errors -/

/-- The directories of a build. -/
inductive Directory where
  | examples
  | tools
  | docs
  | binding
  deriving DecidableEq

def Directory.key : Directory → Text
  | examples => "examples_dir".toList
  | tools => "tools_dir".toList
  | docs => "docs_dir".toList
  | binding => "binding_dir".toList

def Directories.get {α : Type} (d : Directories α) : Directory → α
  | .examples => d.examples
  | .tools => d.tools
  | .docs => d.docs
  | .binding => d.binding

/-- Why there is no configuration. -/
inductive ConfigError where
  /-- The configuration file cannot be read. -/
  | unreadable (e : FileError)
  | notToml
  /-- The configuration file is no profile. -/
  | malformed (e : DecodeError)
  | emptyDirectory (d : Directory)
  deriving DecidableEq

/-- The message of an error.  A text that is no TOML, or no profile, is reported in the words of the
TOML library, which show the place in the text; what follows `failed to parse config: ` here stands
for these words. -/
def ConfigError.message : ConfigError → Text
  | unreadable e => "failed to read config file: ".toList ++ e.message
  | notToml => "failed to parse config: invalid TOML".toList
  | malformed e => "failed to parse config: ".toList ++ e.message
  | emptyDirectory d => "layout.".toList ++ d.key ++ " must not be empty".toList

/-! ## Resolution -/

/-- A directory without blanks at its ends, and then without `/` at its ends. -/
def cleanDir (p : Path) : Path :=
  Path.trimSlashes p.trim

/-- The first directory of which nothing is left once it is clean. -/
def firstEmpty? (layout : Directories Path) : Option Directory :=
  [Directory.examples, .tools, .docs, .binding].find? fun d => (cleanDir (layout.get d)).isEmpty

/-- An optional text without blanks at its ends; a blank text counts as none. -/
def given? (value : Option Text) : Option Text :=
  (value.map Text.trim).filter fun t => !t.isEmpty

namespace Profile

/-- The options of the build that a profile describes. -/
def build (p : Profile) : Except ConfigError BuildOptions :=
  match firstEmpty? p.layout with
  | some d => .error (.emptyDirectory d)
  | none => .ok
    { switches := p.switches.map₂ Option.getD defaultSwitches
      layout := p.layout.map cleanDir }

def loadOptions (p : Profile) : LoadOptions where
  exclude := p.normalize.exclude
  rootMarker := given? p.normalize.rootMarker
  installPrefix := given? p.normalize.installPrefix

def normalizeOptions (p : Profile) : NormalizeOptions where
  librarySuffix := given? p.normalize.librarySuffix
  scope := p.normalize.scope.getD .libraryDir

end Profile

/-! ## Configurations -/

/-- Everything that a check needs to know. -/
structure Config where
  load : LoadOptions := {}
  normalize : NormalizeOptions := {}
  build : BuildOptions := {}
  deriving DecidableEq

instance : Inhabited Config := ⟨{}⟩

/-- The configuration that a profile describes. -/
def Profile.config (p : Profile) : Except ConfigError Config :=
  p.build.map fun build => ⟨p.loadOptions, p.normalizeOptions, build⟩

/-- The manifest of a listing under a configuration. -/
def Config.manifest (c : Config) (listing : Text) : Manifest :=
  c.normalize.normalizer.apply (c.load.load listing)

end InstallAudit
