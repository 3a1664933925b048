import InstallAudit.Text.Search

/-!
# Paths and their segments

A path is a text that `/` divides into segments.  Every text is a path: there is always at least
one segment, and segments may be empty.

* `segments`, `ofSegments` — the two views of a path.
* `dirs`, `name` — the segments in front of the last one, and the last one.
* `isUnder` — whether a directory occurs in a path as a run of whole segments above the name.
* `hasExtension` — whether the name is longer than an extension and ends with it.
* `above` — the paths above a path.
* `withoutSuffix?` — the path without a suffix, as long as some name is left.
-/

namespace InstallAudit

/-- A path is a text that `/` divides into segments. -/
abbrev Path := Text

namespace Path

/-! ## Segments -/

/-- The segments of a path, in order. -/
def segments (p : Path) : List Text :=
  p.splitOn '/'

def ofSegments (segs : List Text) : Path :=
  List.intercalate ['/'] segs

/-- The segments in front of the last one. -/
def dirs (p : Path) : List Text :=
  p.segments.dropLast

def name (p : Path) : Text :=
  p.segments.getLast?.getD []

/-- The segments that are not empty. -/
def steps (p : Path) : List Text :=
  p.segments.filter fun s => !s.isEmpty

/-- Dividing a path into segments loses nothing. -/
@[simp] theorem ofSegments_segments (p : Path) : ofSegments p.segments = p :=
  List.intercalate_splitOn '/'

/-- A path has at least one segment. -/
theorem segments_ne_nil (p : Path) : p.segments ≠ [] :=
  List.splitOn_ne_nil _ _

/-- Segments without `/` are the segments of the path that they make. -/
theorem segments_ofSegments {segs : List Text} (free : ∀ s ∈ segs, '/' ∉ s) (some : segs ≠ []) :
    segments (ofSegments segs) = segs :=
  List.splitOn_intercalate '/' free some

/-! ## Directories and extensions -/

/-- Whether `run` occurs in `segs` as a contiguous run. -/
def hasRun (run : List Text) : List Text → Bool
  | [] => run.isEmpty
  | s :: segs => run.isPrefixOf (s :: segs) || hasRun run segs

/-- Whether a path lies strictly below a directory.  The steps of the directory have to occur as a
run of whole segments above the name of the path; a directory without steps has nothing below
it. -/
def isUnder (p : Path) (dir : Path) : Bool :=
  !dir.steps.isEmpty && hasRun dir.steps p.dirs

/-- Whether the name of a path ends with an extension and has something in front of it. -/
def hasExtension (p : Path) (ext : Text) : Bool :=
  ext.byteLength < p.name.byteLength && ext.isSuffixOf p.name

/-! ## The paths above -/

/-- The paths of the directories on the way along segments, given the last segment first; the
nearest directory comes first.  Empty segments and `.` segments are no steps, unless a `.` is the
whole path. -/
def waysUp : List Text → List Path
  | [] => []
  | s :: before =>
    if s.isEmpty || (s == ['.'] && !before.isEmpty) then waysUp before
    else ofSegments (before.reverse ++ [s]) :: waysUp before

/-- The paths above a path, the nearest one first. -/
def above (p : Path) : List Path :=
  (waysUp p.segments.reverse).drop 1

/-! ## Suffixes -/

/-- The path without a suffix.  There is none when the path does not end with the suffix, and none
when no name would be left. -/
def withoutSuffix? (p : Path) (suffix : Text) : Option Path :=
  (suffix.isSuffixOf? p).filter fun rest => !rest.isEmpty && !rest.endsWith '/'

/-! ## Cleaning -/

/-- The path with `/` in place of each `\`. -/
def unified (p : Path) : Path :=
  p.map fun c => if c = '\\' then '/' else c

/-- Whether a path starts at a root: with `/`, or with the letter of a drive and a colon. -/
def isAbsolute : Path → Bool
  | '/' :: _ => true
  | drive :: ':' :: _ => drive.isAlpha
  | _ => false

/-- The path without its empty segments and without its `.` segments. -/
def clean (p : Path) : Path :=
  ofSegments (p.segments.filter fun s => !s.isEmpty && s != ['.'])

/-- The path without `/` at its two ends. -/
def trimSlashes (p : Path) : Path :=
  Text.trimBoth (· == '/') p

/-- What follows the first run of whole segments that spells `marker`, if something of the path
is left after it. -/
def afterMarker? (p : Path) (marker : Path) : Option Path :=
  let marker := trimSlashes marker
  if marker.isEmpty then none
  else ((marker ++ ['/']).isPrefixOf? p).or (Text.afterFirst? ('/' :: marker ++ ['/']) p)

/-- What follows an installation prefix.  The prefix counts without the `/` at its end and has to
end where a segment ends. -/
def afterPrefix? (p : Path) (head : Path) : Option Path :=
  let head := Text.trimEnd (· == '/') (unified head)
  if head.isEmpty then none
  else (head.isPrefixOf? p).filter fun rest => rest.isEmpty || rest.startsWith '/'

end Path

end InstallAudit
