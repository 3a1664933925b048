import InstallAudit.Program

/-!
# The command

The program at work on the files of a machine.  What stands at the paths of a run is looked up
first; then the run is worked out on what was found, and its end is carried out: the changed files
are written, the texts are printed, and the exit status is returned.
-/

namespace InstallAudit.Machine

/-- Why something cannot be looked into, in the words of the system. -/
def reason (e : IO.Error) : FileError :=
  match e with
  | .noFileOrDirectory _ _ _ => .missing
  | .permissionDenied _ code details =>
    .other (details.toList ++ " (os error ".toList ++ Text.ofNat code.toNat ++ [')'])
  | e => .other (toString e).toList

/-- What stands at a path, if anything does. -/
def look? (p : Path) : IO (Option FileNode) := do
  let look : IO FileNode := do
    let place ← IO.FS.realPath (String.ofList p)
    if ← place.isDir then return .directory
    return .file (← IO.FS.readBinFile place).toList
  match ← look.toBaseIO with
  | .ok node => return some node
  | .error e =>
    match reason e with
    | .missing => return none
    | e => return some (.closed e)

/-- The tree with what stands at a path put into it, unless the place is known already.  A path
that leads nowhere yet, because a directory on its way does not exist, may lead somewhere later:
then what stands at its place counts. -/
def record (t : FileTree) (p : Path) : IO FileTree := do
  let place := FileTree.place p
  if (t.at? place).isSome then return t
  let found ← look? p
  let found ← if found.isSome then pure found else look? (.ofSegments place)
  match found with
  | some node => return t.put place node
  | none => return t

/-- The files at the given paths and on the way to them. -/
def files (paths : List Path) : IO FileTree :=
  (paths.flatMap FileTree.waypoints).foldlM record ⟨[]⟩

/-- Put something at a path. -/
def place (p : Path) (node : FileNode) : IO Unit :=
  match node with
  | .file content => IO.FS.writeBinFile (String.ofList p) ⟨content.toArray⟩
  | .directory => IO.FS.createDirAll (String.ofList p)
  | .closed _ => return

/-- Run the program on the files of the machine. -/
def run (args : List Text) : IO UInt32 := do
  let before ← files (Program.paths args)
  let environment ← IO.getEnv "INSTCHECK_LOG"
  let outcome := Program.run before (environment.map String.toList) args
  for (p, node) in before.changes outcome.files do
    place p node
  IO.print (String.ofList outcome.out.toText)
  IO.eprint (String.ofList outcome.err.toText)
  return outcome.status.toUInt32

end InstallAudit.Machine

/-- Run the program; its exit status is that of the run. -/
def main (args : List String) : IO UInt32 :=
  InstallAudit.Machine.run (args.map String.toList)
