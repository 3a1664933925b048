import InstallAudit.Text.Blank

/-!
# Regular expressions

A directive of the log may ask for values that match a regular expression.  No value is ever
matched, but a directive whose expression makes no sense is refused, so what matters here is the
build of an expression and not what it matches.

An expression makes sense when it is not nested too deeply and stays within the characters that
are known.  The tables of Unicode are not at hand: the letters of words, the digits, the blanks,
the ends of words and the cases of letters are known among the ASCII characters only.

* `CharSet`, `Piece`, `Expression` — expressions and their parts.
* `Expression.depth` — how deeply an expression is nested.
* `Mode` — how characters are taken in a part of an expression.
* `Expression.isKnown` — whether every part stays within the known characters.
* `Expression.isSound` — whether an expression makes sense.
-/

namespace InstallAudit.Pattern

mutual

/-- A member of a set of characters. -/
inductive Member where
  /-- All characters from one to another, which may be the same. -/
  | range (first last : Char)
  /-- The characters of a named class, or all others. -/
  | named (negated : Bool)
  /-- The digits, the blanks or the letters of words, or all other characters. -/
  | kind (negated : Bool)
  /-- The characters of another set, or all others. -/
  | nested (negated : Bool) (set : CharSet)

inductive CharSet where
  /-- All members together. -/
  | union (members : List Member)
  /-- An intersection, a difference or a symmetric difference. -/
  | combination (left right : CharSet)

end

/-- A piece of a regular expression. -/
inductive Piece where
  /-- A change of the mode for the pieces that follow. -/
  | flags (flags : Text)
  /-- A character; it may be written as the number of a byte. -/
  | char (c : Char) (byte : Bool)
  | any
  /-- The digits, the blanks or the letters of words, or all other characters. -/
  | kind (negated : Bool)
  /-- An end of a line or of the text. -/
  | lineEnd
  /-- An end of a word, or a place that is none. -/
  | wordEnd
  /-- A character of a set, or any other character. -/
  | set (negated : Bool) (set : CharSet)
  /-- A piece that may be missing or occur several times. -/
  | repeated (p : Piece)
  /-- Alternatives, with a change of the mode for them. -/
  | group (flags : Text) (branches : List (List Piece))

/-- A regular expression: alternatives, each of them pieces in a row. -/
abbrev Expression := List (List Piece)

/-! ## Depth

Sets, repetitions and groups count as a level each.  Parts side by side share one more level, and
a part that stands alone does not need it. -/

/-- The depth of some parts side by side, the deepest of which has the given depth. -/
def sideBySide (count depth : Nat) : Nat :=
  if count ≤ 1 then depth else depth + 1

mutual

def Member.depth : Member → Nat
  | .nested _ set => set.depth + 1
  | _ => 0

def CharSet.depth : CharSet → Nat
  | .union members => sideBySide members.length (membersDepth members)
  | .combination left right => max left.depth right.depth + 1

def membersDepth : List Member → Nat
  | [] => 0
  | m :: ms => max m.depth (membersDepth ms)

end

mutual

def Piece.depth : Piece → Nat
  | .set _ set => set.depth + 1
  | .repeated p => p.depth + 1
  | .group _ branches => sideBySide branches.length (branchesDepth branches) + 1
  | _ => 0

def piecesDepth : List Piece → Nat
  | [] => 0
  | p :: ps => max p.depth (piecesDepth ps)

def branchesDepth : List (List Piece) → Nat
  | [] => 0
  | ps :: branches => max (sideBySide ps.length (piecesDepth ps)) (branchesDepth branches)

end

def Expression.depth (p : Expression) : Nat :=
  sideBySide p.length (branchesDepth p)

/-! ## Modes -/

/-- How characters are taken in a part of an expression. -/
structure Mode where
  /-- Whether letters stand for both of their cases. -/
  folds : Bool := false
  /-- Whether characters are taken as characters, not as bytes. -/
  wide : Bool := true
  deriving DecidableEq

namespace Mode

/-- What flags make of a setting: they set it, or take it back behind a minus. -/
def setting (flags : Text) (flag : Char) (old : Bool) : Bool :=
  let (on, off) := flags.span (· != '-')
  on.contains flag || (old && !off.contains flag)

def change (m : Mode) (flags : Text) : Mode :=
  ⟨setting flags 'i' m.folds, setting flags 'u' m.wide⟩

/-- Whether the cases of characters are known, as far as they count. -/
def knowsCases (m : Mode) : Bool :=
  !m.folds || !m.wide

/-- Whether a character is a byte, as far as it has to be one. -/
def admits (m : Mode) (c : Char) : Bool :=
  m.wide || c.toNat < 0x80

/-- Whether everything outside of a set is known: of bytes, only those are that are characters on
their own. -/
def admitsNegation (m : Mode) (negated : Bool) : Bool :=
  m.wide || !negated

end Mode

/-! ## Known characters -/

mutual

/-- Whether a member stays within the characters that are known in a mode. -/
def Member.isKnown (m : Mode) : Member → Bool
  | .range first last => m.knowsCases && m.admits first && m.admits last
  | .named negated => m.knowsCases && m.admitsNegation negated
  | .kind negated => !m.wide && !negated
  | .nested negated set => m.admitsNegation negated && set.isKnown m

def CharSet.isKnown (m : Mode) : CharSet → Bool
  | .union members => membersKnown m members
  | .combination left right => left.isKnown m && right.isKnown m

def membersKnown (m : Mode) : List Member → Bool
  | [] => true
  | x :: xs => x.isKnown m && membersKnown m xs

end

mutual

/-- The mode behind a piece that stays within the known characters. -/
def Piece.after? (m : Mode) : Piece → Option Mode
  | .flags flags => some (m.change flags)
  | .char c byte => if m.knowsCases && (!byte || m.admits c) then some m else none
  | .any => if m.wide then some m else none
  | .kind negated => if !m.wide && !negated then some m else none
  | .lineEnd => some m
  | .wordEnd => if m.wide then none else some m
  | .set negated set => if m.admitsNegation negated && set.isKnown m then some m else none
  | .repeated p => p.after? m
  | .group flags branches => (branchesAfter? (m.change flags) branches).map fun _ => m

def piecesAfter? (m : Mode) : List Piece → Option Mode
  | [] => some m
  | p :: ps =>
    match p.after? m with
    | none => none
    | some m => piecesAfter? m ps

/-- The mode behind alternatives that stay within the known characters.  A change of the mode in
one of them goes on in the next ones. -/
def branchesAfter? (m : Mode) : List (List Piece) → Option Mode
  | [] => some m
  | ps :: branches =>
    match piecesAfter? m ps with
    | none => none
    | some m => branchesAfter? m branches

end

namespace Expression

/-- Whether every part of an expression stays within the known characters. -/
def isKnown (p : Expression) : Bool :=
  (branchesAfter? {} p).isSome

/-- How deeply an expression may be nested. -/
def maxDepth : Nat := 250

/-- Whether an expression makes sense. -/
def isSound (p : Expression) : Bool :=
  depth p ≤ maxDepth && isKnown p

end Expression

end InstallAudit.Pattern
