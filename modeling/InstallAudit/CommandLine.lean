import InstallAudit.Settings.Decoding

/-!
# The command line

A command line names a command, the files that it works on, and options.  Options for the profile
take precedence over the profile in a file.

* `Command` — what can be done.
* `CommandLine.parse` — the command of a list of arguments, or the reason why nothing is run.
* `ProfileFlags.overlay`, `BuildFlags.overlay` — a profile with the options laid over it.
* `ProfileFlags.profile` — the profile that options are laid over.
-/

namespace InstallAudit

/-! ## Commands -/

/-- The options that every command has. -/
structure Globals where
  json : Bool := false
  /-- Write a log for debugging. -/
  verbose : Bool := false
  /-- Write the whole log. -/
  trace : Bool := false
  deriving DecidableEq

/-- The options that were given on either side of the name of a command. -/
def Globals.both (g h : Globals) : Globals :=
  ⟨g.json || h.json, g.verbose || h.verbose, g.trace || h.trace⟩

/-- The options about the profile and about listings. -/
structure ProfileFlags where
  /-- The file with the profile. -/
  config : Option Path := none
  installPrefix : Option Text := none
  rootMarker : Option Text := none
  exclude : List Text := []
  librarySuffix : Option Text := none
  scope : Option SuffixScope := none
  deriving DecidableEq

/-- The options about the build. -/
structure BuildFlags where
  switches : Switches (Option Bool) := openSwitches
  layout : Directories (Option Path) := ⟨none, none, none, none⟩
  deriving DecidableEq

/-- The shells for which there are completions. -/
inductive Shell where
  | bash
  | elvish
  | fish
  | powershell
  | zsh
  deriving DecidableEq

def Shell.name : Shell → Text
  | bash => "bash".toList
  | elvish => "elvish".toList
  | fish => "fish".toList
  | powershell => "powershell".toList
  | zsh => "zsh".toList

def Shell.all : List Shell :=
  [bash, elvish, fish, powershell, zsh]

/-- What can be done. -/
inductive Command where
  | check (generated reference : Path) (profile : ProfileFlags) (build : BuildFlags)
  | normalize (listing : Path) (profile : ProfileFlags)
  | completions (shell : Shell)
  | manPages (dir : Path)
  deriving DecidableEq

/-- Why a command line runs no command. -/
inductive Stop where
  | help
  | version
  /-- The command line cannot be understood. -/
  | usage
  deriving DecidableEq

namespace CommandLine

/-! ## Arguments -/

/-- What an argument is by its looks. -/
inductive Token where
  /-- `--`, behind which everything is an operand. -/
  | escape
  /-- `--name`, perhaps with `=` and a value. -/
  | long (name : Text) (attached : Option Text)
  /-- `-` and letters. -/
  | short (letters : Text)
  /-- Anything else; a lone `-` is an operand. -/
  | operand
  deriving DecidableEq

/-- What an argument is. -/
def Token.of : Text → Token
  | ['-', '-'] => .escape
  | '-' :: '-' :: t =>
    match t.span (· != '=') with
    | (name, '=' :: value) => .long name (some value)
    | (name, _) => .long name none
  | '-' :: c :: t => .short (c :: t)
  | _ => .operand

/-- The options without a value. -/
inductive Flag where
  | json
  | verbose
  | trace
  | help
  | version
  deriving DecidableEq

/-- The flag with a name.  The version can only be asked for in front of the name of a command. -/
def Flag.ofName? (inFront : Bool) (name : Text) : Option Flag :=
  if name = "json".toList then some .json
  else if name = "verbose".toList then some .verbose
  else if name = "trace".toList then some .trace
  else if name = "help".toList then some .help
  else if inFront ∧ name = "version".toList then some .version
  else none

/-- The flag with a letter. -/
def Flag.ofLetter? (inFront : Bool) (c : Char) : Option Flag :=
  if c = 'v' then some .verbose
  else if c = 'h' then some .help
  else if inFront ∧ c = 'V' then some .version
  else none

/-- Raise a flag.  No flag may be raised twice. -/
def Flag.raise (g : Globals) : Flag → Except Stop Globals
  | json => if g.json then .error .usage else .ok { g with json := true }
  | verbose => if g.verbose then .error .usage else .ok { g with verbose := true }
  | trace => if g.trace then .error .usage else .ok { g with trace := true }
  | help => .error .help
  | version => .error .version

/-- Raise the flags with the given letters, in order. -/
def raiseAll (inFront : Bool) (g : Globals) (letters : Text) : Except Stop Globals :=
  letters.foldlM (fun g c =>
    match Flag.ofLetter? inFront c with
    | some flag => flag.raise g
    | none => .error .usage) g

/-! ## Options with a value -/

/-- What the arguments behind the name of a command have said so far. -/
structure Draft where
  globals : Globals := {}
  profile : ProfileFlags := {}
  build : BuildFlags := {}
  operands : List Text := []

/-- An option with a value, and how the value is stored; nothing if it is refused. -/
structure ValueOption where
  name : Text
  store : Text → Draft → Option Draft

/-- An option that may be given once. -/
def ValueOption.once {α : Type} (name : String) (read : Text → Option α)
    (get : Draft → Option α) (set : α → Draft → Draft) : ValueOption where
  name := name.toList
  store value d := if (get d).isSome then none else (read value).map fun a => set a d

/-- A path that is not empty. -/
def path? (t : Text) : Option Path :=
  if t.isEmpty then none else some t

/-- The options about the profile and about listings. -/
def profileOptions : List ValueOption :=
  [.once "config" path? (·.profile.config) fun v d => { d with profile.config := some v },
   .once "install-prefix" some (·.profile.installPrefix)
     fun v d => { d with profile.installPrefix := some v },
   .once "root-marker" some (·.profile.rootMarker)
     fun v d => { d with profile.rootMarker := some v },
   ⟨"exclude".toList, fun v d => some { d with profile.exclude := d.profile.exclude ++ [v] }⟩,
   .once "lib-suffix" some (·.profile.librarySuffix)
     fun v d => { d with profile.librarySuffix := some v },
   .once "lib-suffix-scope" Settings.scopeOf? (·.profile.scope)
     fun v d => { d with profile.scope := some v }]

/-- The options about the build. -/
def buildOptions : List ValueOption :=
  [.once "shared-libs" flag? (·.build.switches.sharedLibs)
     fun v d => { d with build.switches.sharedLibs := some v },
   .once "pkg-config" flag? (·.build.switches.pkgConfig)
     fun v d => { d with build.switches.pkgConfig := some v },
   .once "docs" flag? (·.build.switches.docs)
     fun v d => { d with build.switches.docs := some v },
   .once "examples" flag? (·.build.switches.examples)
     fun v d => { d with build.switches.examples := some v },
   .once "tools" flag? (·.build.switches.tools)
     fun v d => { d with build.switches.tools := some v },
   .once "bindings" flag? (·.build.switches.bindings)
     fun v d => { d with build.switches.bindings := some v },
   .once "examples-dir" some (·.build.layout.examples)
     fun v d => { d with build.layout.examples := some v },
   .once "tools-dir" some (·.build.layout.tools)
     fun v d => { d with build.layout.tools := some v },
   .once "docs-dir" some (·.build.layout.docs)
     fun v d => { d with build.layout.docs := some v },
   .once "binding-dir" some (·.build.layout.binding)
     fun v d => { d with build.layout.binding := some v }]

/-! ## Forms -/

/-- What a command line looks like behind the name of a command. -/
structure Form where
  name : Text
  options : List ValueOption
  /-- How many operands there may be at most. -/
  operands : Nat
  /-- Whether a text may be an operand. -/
  accepts : Text → Bool
  /-- The command that a finished draft describes. -/
  finish : Draft → Option Command

def shell? (name : Text) : Option Shell :=
  Shell.all.find? fun s => s.name = name

def forms : List Form :=
  [{ name := "check".toList
     options := profileOptions ++ buildOptions
     operands := 2
     accepts := fun t => !t.isEmpty
     finish := fun d => match d.operands with
      | [generated, reference] => some (.check generated reference d.profile d.build)
      | _ => none },
   { name := "normalize".toList
     options := profileOptions
     operands := 1
     accepts := fun t => !t.isEmpty
     finish := fun d => match d.operands with
      | [listing] => some (.normalize listing d.profile)
      | _ => none },
   { name := "completions".toList
     options := []
     operands := 1
     accepts := fun t => (shell? t).isSome
     finish := fun d => match d.operands with
      | [name] => (shell? name).map .completions
      | _ => none },
   { name := "man-pages".toList
     options := []
     operands := 1
     accepts := fun t => !t.isEmpty
     finish := fun d => match d.operands with
      | [] => some (.manPages "man".toList)
      | [dir] => some (.manPages dir)
      | _ => none }]

/-- The draft with one more operand. -/
def Form.operand (form : Form) (d : Draft) (t : Text) : Except Stop Draft :=
  if d.operands.length < form.operands ∧ form.accepts t then
    .ok { d with operands := d.operands ++ [t] }
  else .error .usage

/-- The draft with the value of an option stored. -/
def Form.store (form : Form) (d : Draft) (name value : Text) : Except Stop Draft :=
  match form.options.find? fun o => o.name = name with
  | none => .error .usage
  | some o =>
    match o.store value d with
    | some d => .ok d
    | none => .error .usage

/-- Read the arguments behind the name of a command.  Behind `--` everything is an operand.  The
value of an option is attached with `=` or is the next argument, which then has to look like an
operand. -/
def Form.read (form : Form) : Bool → Draft → List Text → Except Stop Draft
  | _, d, [] => .ok d
  | true, d, a :: rest => do form.read true (← form.operand d a) rest
  | false, d, a :: rest =>
    match Token.of a with
    | .escape => form.read true d rest
    | .short letters => do
      let g ← raiseAll false d.globals letters
      form.read false { d with globals := g } rest
    | .operand => do form.read false (← form.operand d a) rest
    | .long name attached =>
      match Flag.ofName? false name, attached with
      | some _, some _ => .error .usage
      | some flag, none => do
        let g ← flag.raise d.globals
        form.read false { d with globals := g } rest
      | none, some value => do form.read false (← form.store d name value) rest
      | none, none =>
        match rest with
        | [] => .error .usage
        | value :: rest =>
          if Token.of value = .operand then do form.read false (← form.store d name value) rest
          else .error .usage

/-! ## The whole command line -/

/-- Read the arguments up to the name of a command: the options in front of it, the name, and the
arguments behind it. -/
def readFront (g : Globals) : List Text → Except Stop (Globals × Text × List Text)
  | [] => .error .usage
  | a :: rest =>
    match Token.of a with
    | .escape => .error .usage
    | .operand => .ok (g, a, rest)
    | .short letters => do readFront (← raiseAll true g letters) rest
    | .long name attached =>
      match Flag.ofName? true name, attached with
      | some flag, none => do readFront (← flag.raise g) rest
      | _, _ => .error .usage

/-- The word that asks for help. -/
def helpWord : Text :=
  "help".toList

/-- What follows from the arguments behind the word that asks for help: at most one of them, and
it has to name a command. -/
def helpFor : List Text → Stop
  | [] => .help
  | [name] => if name = helpWord ∨ forms.any (fun f => f.name = name) then .help else .usage
  | _ => .usage

/-- The command of a list of arguments, with the options that every command has. -/
def parse (args : List Text) : Except Stop (Globals × Command) := do
  let (g, name, rest) ← readFront {} args
  if name = helpWord then .error (helpFor rest)
  else match forms.find? fun f => f.name = name with
  | none => .error .usage
  | some form => do
    let d ← form.read false {} rest
    match form.finish d with
    | some command => .ok (g.both d.globals, command)
    | none => .error .usage

end CommandLine

/-! ## Options over a profile -/

/-- A profile with the options about listings laid over it.  The tokens of the command line are
added to those of the profile. -/
def ProfileFlags.overlay (flags : ProfileFlags) (p : Profile) : Profile :=
  { p with normalize :=
    { installPrefix := flags.installPrefix.or p.normalize.installPrefix
      rootMarker := flags.rootMarker.or p.normalize.rootMarker
      exclude := p.normalize.exclude ++ flags.exclude
      librarySuffix := flags.librarySuffix.or p.normalize.librarySuffix
      scope := flags.scope.or p.normalize.scope } }

/-- A profile with the options about the build laid over it. -/
def BuildFlags.overlay (flags : BuildFlags) (p : Profile) : Profile :=
  { p with
    switches := flags.switches.map₂ Option.or p.switches
    layout := flags.layout.map₂ Option.getD p.layout }

/-- The profile that options are laid over: the one in a file, or the one that leaves everything
open. -/
def ProfileFlags.profile (flags : ProfileFlags) (read : FileReader) :
    Except ConfigError Profile :=
  match flags.config with
  | some p => Settings.profileAt read p
  | none => .ok {}

end InstallAudit
