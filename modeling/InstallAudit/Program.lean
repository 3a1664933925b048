import InstallAudit.Check
import InstallAudit.Guide
import InstallAudit.Log.Directive
import InstallAudit.Settings.Display

/-!
# The program

A run of the program takes its arguments and the files that it can see, and ends with an exit
status, what it printed, and the files as it left them.

* `Outcome` — the end of a run.
* `Failure` — why a command fails, with the message and the exit status.
* `ProfileFlags.resolve` — the configuration of a command.
* `Program.execute` — the end of a command.
* `Program.run` — the end of a run.
* `Program.paths` — the paths of which a run has to know what stands there.
-/

namespace InstallAudit

/-! ## The end of a run -/

/-- What is printed. -/
inductive Output where
  /-- What the program has found out. -/
  | text (t : Text)
  /-- What the program says about itself, in words that bind nobody. -/
  | guide (t : Text)
  deriving DecidableEq

def Output.toText : Output → Text
  | text t => t
  | guide t => t

/-- The end of a run. -/
structure Outcome where
  status : Nat
  out : Output
  /-- What goes to the standard error. -/
  err : Output
  /-- The files as the run left them. -/
  files : FileTree

/-! ## Failures -/

/-- Why a command fails. -/
inductive Failure where
  /-- The file with the profile holds none. -/
  | profile (p : Path) (e : ConfigError)
  | run (e : RunError)
  | notCreated (p : Path) (e : FileError)
  | notWritten (p : Path) (e : FileError)
  deriving DecidableEq

namespace Failure

def message : Failure → Text
  | profile p e => "config error: ".toList ++ p ++ ": ".toList ++ e.message
  | run e => e.message
  | notCreated p e => "failed to create ".toList ++ p ++ ": ".toList ++ e.message
  | notWritten p e => "failed to write ".toList ++ p ++ ": ".toList ++ e.message

/-- The words with which a message about the input starts. -/
def inputWords : List Text :=
  ["manifest error:".toList, "config error:".toList]

/-- The exit status of a failure: what is wrong with the input has a status of its own.  It is the
message that tells. -/
def status (f : Failure) : Nat :=
  if inputWords.any fun words => words.isPrefixOf f.message then 2 else 1

/-- The line that is printed about a failure. -/
def line (f : Failure) : Text :=
  "error: ".toList ++ f.message ++ ['\n']

end Failure

/-! ## Configurations -/

/-- The configuration of a command: the options are laid over the profile, and then the result is
resolved. -/
def ProfileFlags.resolve (flags : ProfileFlags) (build : Option BuildFlags) (read : FileReader) :
    Except Failure Config :=
  match flags.profile read with
  | .error e =>
    .error (match flags.config with
      | some p => .profile p e
      | none => .run (.config e))
  | .ok p =>
    let p := flags.overlay p
    let p := match build with
      | some b => b.overlay p
      | none => p
    p.config.mapError fun e => .run (.config e)

/-- What is said about a configuration. -/
def configLog (c : Config) : List Event :=
  [⟨.debug, .commandLine, "load options: ".toList ++ Settings.showLoad c.load⟩,
   ⟨.debug, .commandLine, "normalize options: ".toList ++ Settings.showNormalize c.normalize⟩,
   ⟨.debug, .commandLine, "build options: ".toList ++ Settings.showBuild c.build⟩]

namespace Program

/-! ## Commands -/

/-- What a command has done when it ends. -/
structure Effect where
  /-- The exit status, unless the command fails. -/
  status : Nat := 0
  out : Output := .text []
  /-- What goes to the standard error behind the log. -/
  err : Text := []

/-- A command that ends well or fails, and what was said on the way. -/
abbrev Trial := Logged (Except Failure Effect)

/-- What is printed below a report that did not pass. -/
def verdict (r : Report) : Text :=
  if r.passed then []
  else Report.line ("✗ check failed: ".toList ++ r.counts)

def printReport (json : Bool) (r : Report) : Effect :=
  if json then
    { status := r.status
      out := .text (Report.line (Settings.encodeReport r).pretty) }
  else
    { status := r.status
      err := r.text ++ verdict r }

def printManifest (json : Bool) (m : Manifest) : Effect where
  out := .text <|
    if json then
      Report.line (Document.record
        [("digest", .string m.digest), ("entries", Settings.encodeManifest m)]).pretty
    else m.text

/-- Reconcile two listings. -/
def check (read : FileReader) (json : Bool) (generated reference : Path) (profile : ProfileFlags)
    (build : BuildFlags) : Trial :=
  match profile.resolve (some build) read with
  | .error e => ⟨.error e, []⟩
  | .ok c =>
    let checked := checkFiles read c generated reference
    ⟨match checked.result with
      | .error e => .error (.run (.manifest e))
      | .ok r => .ok (printReport json r),
     configLog c ++ checked.log⟩

/-- Print a listing in its normal form. -/
def normalize (read : FileReader) (json : Bool) (listing : Path) (profile : ProfileFlags) :
    Trial :=
  match profile.resolve none read with
  | .error e => ⟨.error e, []⟩
  | .ok c =>
    let loaded := loadNormalized read c listing
    ⟨match loaded.result with
      | .error e => .error (.run (.manifest e))
      | .ok m => .ok (printManifest json m),
     configLog c ++ loaded.log⟩

def inside (dir name : Path) : Path :=
  if Text.endsWith '/' dir then dir ++ name else dir ++ ['/'] ++ name

/-- The files with one more page of the manual; a failure leaves the pages in front of it. -/
def writePage (dir : Path) (state : FileTree × Option Failure) (page : Path × Text) :
    FileTree × Option Failure :=
  match state with
  | (files, some e) => (files, some e)
  | (files, none) =>
    match files.write (inside dir page.1) (Text.encode page.2) with
    | .ok files => (files, none)
    | .error e => (files, some (.notWritten (inside dir page.1) e))

/-- The files with the pages of the manual in a directory. -/
def writePages (files : FileTree) (dir : Path) : FileTree × Except Failure Effect :=
  match files.makeDirs dir with
  | (files, .error e) => (files, .error (.notCreated dir e))
  | (files, .ok ()) =>
    match Guide.pages.foldl (writePage dir) (files, none) with
    | (files, some e) => (files, .error e)
    | (files, none) =>
      (files, .ok { out := .text (Report.line
        (Text.ofNat Guide.pages.length ++ " man pages written to ".toList ++ dir)) })

/-- What a command does, and the files as it leaves them. -/
def perform (files : FileTree) (json : Bool) : Command → Trial × FileTree
  | .check generated reference profile build =>
    (check files.read json generated reference profile build, files)
  | .normalize listing profile => (normalize files.read json listing profile, files)
  | .completions shell => (⟨.ok { out := .guide (Guide.completions shell) }, []⟩, files)
  | .manPages dir =>
    let (files, result) := writePages files dir
    (⟨result, []⟩, files)

/-! ## Runs -/

/-- The level of the log that the options ask for. -/
def level (g : Globals) : Level :=
  if g.trace then .trace else if g.verbose then .debug else .warn

/-- The filter of the log: the one in the environment if it can be understood, else the one that
the options ask for. -/
def filter (g : Globals) (environment : Option Text) : Filter :=
  (environment.bind Filter.parse?).getD (.upTo (level g))

/-- The end of a command: the log comes first, and a failure has the last word. -/
def execute (files : FileTree) (environment : Option Text) (g : Globals) (c : Command) : Outcome :=
  let (trial, files) := perform files g.json c
  let log := (filter g environment).render trial.log
  match trial.result with
  | .ok effect => ⟨effect.status, effect.out, .text (log ++ effect.err), files⟩
  | .error e => ⟨e.status, .text [], .text (log ++ e.line), files⟩

/-- The paths that a command reads or writes. -/
def touched : Command → List Path
  | .check generated reference profile _ => profile.config.toList ++ [generated, reference]
  | .normalize listing profile => profile.config.toList ++ [listing]
  | .completions _ => []
  | .manPages dir => dir :: Guide.pages.map fun page => inside dir page.1

/-- The paths that a run reads or writes. -/
def paths (args : List Text) : List Path :=
  match CommandLine.parse args with
  | .ok (_, c) => touched c
  | .error _ => []

/-- The end of a run that runs no command. -/
def stopped (files : FileTree) : Stop → Outcome
  | .help => ⟨0, .guide Guide.help, .text [], files⟩
  | .version => ⟨0, .text Guide.version, .text [], files⟩
  | .usage => ⟨2, .text [], .guide Guide.usage, files⟩

/-- The end of a run: of its arguments, the filter in the environment, and the files. -/
def run (files : FileTree) (environment : Option Text) (args : List Text) : Outcome :=
  match CommandLine.parse args with
  | .ok (g, c) => execute files environment g c
  | .error s => stopped files s

end Program

end InstallAudit
