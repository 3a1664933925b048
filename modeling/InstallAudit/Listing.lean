import InstallAudit.Manifest

/-!
# Listings

A listing is the text that an installation leaves behind: one path on a line, in any order, with
comments, blank lines and the separators of any platform.  Reading a listing gives the manifest of
the paths below the installation root.

* `LoadOptions` — which lines are left out, and what is cut off in front of a path.
* `LoadOptions.lines` — the lines of a listing that take part.
* `LoadOptions.readLine` — what one of those lines says.
* `LoadOptions.scan` — the manifest of a listing, and how many lines were marked or absolute.
-/

namespace InstallAudit

/-- How a listing is read. -/
structure LoadOptions where
  /-- A line with one of these tokens in it takes no part. -/
  exclude : List Text := []
  /-- The directory that marks the installation root inside a longer path. -/
  rootMarker : Option Path := none
  /-- The prefix under which the files were installed. -/
  installPrefix : Option Path := none
  deriving DecidableEq, Inhabited

/-- What one line of a listing says. -/
structure Reading where
  /-- The path of the line starts at a root. -/
  absolute : Bool
  /-- The marker of the installation root occurs in the path. -/
  marked : Bool
  /-- The clean path below the installation root; empty when nothing is left. -/
  path : Path
  deriving DecidableEq

/-- What a whole listing says. -/
structure Scan where
  entries : Manifest
  markerHits : Nat
  absoluteLines : Nat

namespace LoadOptions

/-! ## The lines that take part -/

/-- Whether an exclusion token occurs in a line.  The empty token excludes nothing. -/
def excludes (o : LoadOptions) (line : Text) : Bool :=
  o.exclude.any fun token => !token.isEmpty && Text.contains token line

/-- Whether a trimmed line takes part: it is not empty, no comment and not excluded. -/
def keeps (o : LoadOptions) (line : Text) : Bool :=
  !line.isEmpty && !line.startsWith '#' && !o.excludes line

/-- The trimmed lines of a listing that take part, in order. -/
def lines (o : LoadOptions) (listing : Text) : List Text :=
  ((listing.withoutMark.splitOn '\n').map Text.trim).filter o.keeps

/-! ## Reading a line -/

/-- The path of a line from the marker of the installation root on, if the marker occurs. -/
def atMarker? (o : LoadOptions) (p : Path) : Option Path :=
  o.rootMarker.bind p.afterMarker?

/-- The path of a line from the installation prefix on, if the path starts with it. -/
def atPrefix? (o : LoadOptions) (p : Path) : Option Path :=
  o.installPrefix.bind p.afterPrefix?

/-- What one line says: separators are unified first, then the path is cut at the marker, then at
the prefix, and last it is cleaned. -/
def readLine (o : LoadOptions) (line : Text) : Reading :=
  let whole := Path.unified line
  let marked := o.atMarker? whole
  let below := marked.getD whole
  { absolute := whole.isAbsolute
    marked := marked.isSome
    path := ((o.atPrefix? below).getD below).clean }

/-! ## Reading a listing -/

def readings (o : LoadOptions) (listing : Text) : List Reading :=
  (o.lines listing).map o.readLine

/-- What a whole listing says. -/
def scan (o : LoadOptions) (listing : Text) : Scan :=
  let readings := o.readings listing
  { entries := .ofList ((readings.map Reading.path).filter fun p => !p.isEmpty)
    markerHits := readings.countP Reading.marked
    absoluteLines := readings.countP Reading.absolute }

/-- The paths of a listing below the installation root. -/
def load (o : LoadOptions) (listing : Text) : Manifest :=
  (o.scan listing).entries

/-- A path belongs to the manifest of a listing when some line that takes part says it. -/
theorem mem_load {o : LoadOptions} {listing : Text} {p : Path} :
    p ∈ o.load listing ↔ p ≠ [] ∧ ∃ line ∈ o.lines listing, (o.readLine line).path = p := by
  simp [load, scan, readings, and_comm]

/-! ## Fruitless markers -/

/-- Whether a marker was set and found nowhere although some path starts at a root: the listing
then still shows the layout of the build machine. -/
def fruitless (o : LoadOptions) (s : Scan) : Bool :=
  o.rootMarker.isSome && s.markerHits == 0 && 0 < s.absoluteLines

end LoadOptions

end InstallAudit
