import InstallAudit.Path

/-!
# Builds and their switches

How a package was built decides which files may be installed.  Six switches and four directories
describe a build.

* `Switches`, `Directories` — one value for each switch, and one for each directory.
* `BuildOptions` — the switches and directories of one build.
* `flag?` — the words that turn a switch on or off.
-/

namespace InstallAudit

/-! ## Switches and directories -/

/-- One value for each switch of a build. -/
structure Switches (α : Type) where
  /-- Shared libraries are the only libraries that are built. -/
  sharedLibs : α
  pkgConfig : α
  docs : α
  examples : α
  tools : α
  /-- The binding to another language is installed. -/
  bindings : α
  deriving DecidableEq

/-- One value for each directory that a build installs into. -/
structure Directories (α : Type) where
  examples : α
  tools : α
  docs : α
  /-- The directory of the binding to another language. -/
  binding : α
  deriving DecidableEq

def Directories.map {α β : Type} (f : α → β) (d : Directories α) : Directories β :=
  ⟨f d.examples, f d.tools, f d.docs, f d.binding⟩

def Directories.map₂ {α β γ : Type} (f : α → β → γ) (d : Directories α) (e : Directories β) :
    Directories γ :=
  ⟨f d.examples e.examples, f d.tools e.tools, f d.docs e.docs, f d.binding e.binding⟩

def Switches.map₂ {α β γ : Type} (f : α → β → γ) (s : Switches α) (t : Switches β) :
    Switches γ :=
  ⟨f s.sharedLibs t.sharedLibs, f s.pkgConfig t.pkgConfig, f s.docs t.docs,
   f s.examples t.examples, f s.tools t.tools, f s.bindings t.bindings⟩

/-! ## Builds -/

/-- The directories of a build that says nothing else. -/
def defaultLayout : Directories Path where
  examples := "share/docs/examples".toList
  tools := "bin".toList
  docs := "share/doc".toList
  binding := "python".toList

/-- The switches of a build that says nothing else: everything is installed. -/
def defaultSwitches : Switches Bool where
  sharedLibs := false
  pkgConfig := true
  docs := true
  examples := true
  tools := true
  bindings := true

/-- How a package was built. -/
structure BuildOptions where
  switches : Switches Bool := defaultSwitches
  layout : Directories Path := defaultLayout
  deriving DecidableEq

instance : Inhabited BuildOptions := ⟨{}⟩

/-! ## Flags -/

def wordsOn : List Text :=
  ["ON".toList, "TRUE".toList, "YES".toList, "Y".toList, "1".toList]

/-- The words that turn a switch off; the empty word is one of them. -/
def wordsOff : List Text :=
  ["OFF".toList, "FALSE".toList, "NO".toList, "N".toList, "0".toList, []]

/-- The value of a flag, in any case and with blanks around it. -/
def flag? (value : Text) : Option Bool :=
  let word := value.trim.foldUpper
  if word ∈ wordsOn then some true else if word ∈ wordsOff then some false else none

/-- What is said of a text that is no flag. -/
def flagMessage (value : Text) : Text :=
  "invalid boolean '".toList ++ value
    ++ "', expected ON/OFF, TRUE/FALSE, YES/NO or 1/0".toList

end InstallAudit
