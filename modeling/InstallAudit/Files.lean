import InstallAudit.Manifest

/-!
# Files

A tree of files holds the contents of the files below a directory.  Paths are resolved in it the
way a system resolves them: step by step, each step in a directory.

* `FileError` — why a file cannot be read or written, and the words of the system for it.
* `FileTree` — files and directories by the steps that lead to them.
* `FileTree.read`, `readText` — the bytes of a file, and its text.
* `FileTree.makeDir`, `FileTree.makeDirs` — a tree with one more directory, or with all of them on
  the way along a path.
* `FileTree.write` — a tree with one more file.
* `FileTree.changes`, `FileTree.created` — how a tree differs from the one that it came from.
-/

namespace InstallAudit

/-! ## Errors -/

/-- Why a file cannot be read or written. -/
inductive FileError where
  | missing
  | present
  /-- A step leads through something that is no directory. -/
  | notDirectory
  | isDirectory
  /-- The name of the file holds a NUL. -/
  | badName
  /-- The path or one of its segments is too long. -/
  | longName
  /-- The file holds bytes that are no text. -/
  | notText
  /-- Another reason, in the words of the system. -/
  | other (message : Text)
  deriving DecidableEq

def FileError.message : FileError → Text
  | missing => "No such file or directory (os error 2)".toList
  | present => "File exists (os error 17)".toList
  | notDirectory => "Not a directory (os error 20)".toList
  | isDirectory => "Is a directory (os error 21)".toList
  | longName => "File name too long (os error 36)".toList
  | badName => "file name contained an unexpected NUL byte".toList
  | notText => "stream did not contain valid UTF-8".toList
  | other message => message

/-- A way of reading files by their paths. -/
abbrev FileReader := Path → Except FileError Bytes

def readText (read : FileReader) (p : Path) : Except FileError Text := do
  match Text.decode? (← read p) with
  | some t => .ok t
  | none => .error .notText

/-! ## Trees -/

/-- What stands at a place in a tree. -/
inductive FileNode where
  | file (content : Bytes)
  | directory
  /-- Something that may not be looked into, and why. -/
  | closed (e : FileError)
  deriving DecidableEq

/-- Files and directories by the steps that lead to them from the root of the tree.  A directory
that holds something need not be listed. -/
structure FileTree where
  nodes : List (List Text × FileNode)

namespace FileTree

/-- The step to the directory above. -/
def up : Text := ['.', '.']

/-- The step from which absolute paths start. -/
def top : Text := ['/']

/-- What stands at a place.  The root of the tree and everything above it are directories, and so
is everything on the way to a listed place. -/
def at? (t : FileTree) (place : List Text) : Option FileNode :=
  if place.all (· == up) || place == [top] then some .directory
  else match t.nodes.lookup place with
  | some node => some node
  | none =>
    if t.nodes.any fun n => place.isPrefixOf n.1 then some .directory else none

/-- The largest number of bytes of a segment. -/
def segmentLimit : Nat := 255

/-- The largest number of bytes of a path. -/
def pathLimit : Nat := 4095

/-- The place that one segment of a path leads to from a directory. -/
def next (place : List Text) (s : Text) : List Text :=
  if s.isEmpty || s == ['.'] then place
  else if s != up then place ++ [s]
  else if place.all (· == up) then place ++ [up]
  else if place == [top] then place
  else place.dropLast

/-- Follow the segments of a path from a place.  The place has to be a directory at every step,
the last one included when a segment is still to come. -/
def follow (t : FileTree) (place : List Text) : List Text → Except FileError (List Text)
  | [] => .ok place
  | s :: segs =>
    match t.at? place with
    | none => .error .missing
    | some (.file _) => .error .notDirectory
    | some (.closed e) => .error e
    | some .directory =>
      if segmentLimit < s.byteLength then .error .longName else t.follow (next place s) segs

/-- The place where a path starts. -/
def start (p : Path) : List Text :=
  if p.startsWith '/' then [top] else []

/-- The place that a path names, by its segments alone. -/
def place (p : Path) : List Text :=
  p.segments.foldl next (start p)

/-- The paths to the places on the way along a path, its own included. -/
def waypoints (p : Path) : List Path :=
  (List.range p.segments.length).map fun i => .ofSegments (p.segments.take (i + 1))

/-- The place that a path leads to. -/
def locate (t : FileTree) (p : Path) : Except FileError (List Text) :=
  if '\x00' ∈ p then .error .badName
  else if p.isEmpty then .error .missing
  else if pathLimit < p.byteLength then .error .longName
  else t.follow (start p) p.segments

def read (t : FileTree) : FileReader := fun p => do
  match t.at? (← t.locate p) with
  | none => .error .missing
  | some .directory => .error .isDirectory
  | some (.closed e) => .error e
  | some (.file content) => .ok content

/-! ## Changes -/

/-- The tree with one more node. -/
def put (t : FileTree) (place : List Text) (node : FileNode) : FileTree :=
  ⟨(t.nodes.filter fun n => n.1 ≠ place) ++ [(place, node)]⟩

def isDirectory (t : FileTree) (p : Path) : Bool :=
  match t.locate p with
  | .ok place => t.at? place = some .directory
  | .error _ => false

/-- The tree with one more directory.  Everything in front of the last segment of its path has to
lead to a directory.  `.` and `..` are always there, and so is the root. -/
def makeDir (t : FileTree) (p : Path) : Except FileError FileTree :=
  if '\x00' ∈ p then .error .badName
  else if p.isEmpty then .error .missing
  else if pathLimit < p.byteLength then .error .longName
  else match p.segments.reverse.dropWhile List.isEmpty with
  | [] => .error .present
  | s :: before => do
    let place ← t.follow (start p) before.reverse
    match t.at? place with
    | none => .error .missing
    | some (.file _) => .error .notDirectory
    | some (.closed e) => .error e
    | some .directory =>
      if s == ['.'] || s == up then .error .present
      else if segmentLimit < Text.byteLength s then .error .longName
      else if (t.at? (place ++ [s])).isSome then .error .present
      else .ok (t.put (place ++ [s]) .directory)

/-- The tree with the directory of the first path, unless it has one, and with the directories of
the further paths above as far as it needs them.  Directories that were made stay, even if a later
one cannot be made. -/
def makeFrom (t : FileTree) : List Path → FileTree × Except FileError Unit
  | [] => (t, .ok ())
  | p :: above =>
    match t.makeDir p with
    | .ok t => (t, .ok ())
    | .error .missing =>
      match t.makeFrom above with
      | (t, .error e) => (t, .error e)
      | (t, .ok ()) =>
        match t.makeDir p with
        | .ok t => (t, .ok ())
        | .error e => (t, if t.isDirectory p then .ok () else .error e)
    | .error e => (t, if t.isDirectory p then .ok () else .error e)

/-- The tree with a directory and all directories on the way to it. -/
def makeDirs (t : FileTree) (p : Path) : FileTree × Except FileError Unit :=
  t.makeFrom (p :: p.above)

example : (makeDirs ⟨[]⟩ "new/../b".toList).1.nodes
    = [([['n', 'e', 'w']], .directory), ([['b']], .directory)] := by decide +kernel
example : (makeDirs ⟨[]⟩ "a/.".toList).2.toOption = none := by decide +kernel

/-- The tree with the content of a file replaced, or with a new file. -/
def write (t : FileTree) (p : Path) (content : Bytes) : Except FileError FileTree := do
  let place ← t.locate p
  match t.at? place with
  | some .directory => .error .isDirectory
  | some (.closed e) => .error e
  | _ => .ok (t.put place (.file content))

/-- What has to be put into one tree to turn it into another one that came from it. -/
def changes (before after : FileTree) : List (Path × FileNode) :=
  (after.nodes.filter fun n => !before.nodes.contains n).map fun n => (.ofSegments n.1, n.2)

/-- The places of the files of a tree, below its root. -/
def files (t : FileTree) : List (List Text) :=
  t.nodes.filterMap fun
    | (place, .file _) =>
      if place.head? = some top || place.head? = some up then none else some place
    | (_, _) => none

/-- The paths of the files that a tree has and another one does not have. -/
def created (before after : FileTree) : Manifest :=
  .ofList ((after.files.filter fun place => !before.files.contains place).map Path.ofSegments)

end FileTree

end InstallAudit
