import InstallAudit.Log.Pattern
import InstallAudit.Text.Alphanumeric
import InstallAudit.Text.Reader
import InstallAudit.Text.Search

/-!
# Reading regular expressions

The expression of a directive stands in front of a closing brace and holds none itself, so nothing
that ends with a brace is ever complete.

An expression may ask that blanks and comments between its parts do not count.

* `Pattern.charSet?` — a set of characters.
* `Pattern.expression?` — the expression that a text is.
* `Pattern.isValue` — whether a text is a number or an expression that makes sense.
-/

namespace InstallAudit.Pattern

open Reader (hexDigit? hexNumber? charOf? word?)

/-! ## Between the parts -/

/-- The text behind blanks and comments, perhaps from inside a comment. -/
def gap (comment : Bool) : Text → Text
  | [] => []
  | c :: t =>
    if comment then gap (c != '\n') t
    else if Text.isBlank c then gap false t
    else if c == '#' then gap true t
    else c :: t

/-- The text behind what does not count. -/
def skip (spaced : Bool) (t : Text) : Text :=
  if spaced then gap false t else t

/-- The first character that is neither a blank nor the mark of a comment.  The words of a comment
count here. -/
def glimpse? (marked : Bool) : Text → Option Char
  | [] => none
  | c :: t =>
    if Text.isBlank c then glimpse? marked t
    else if c == '#' && !marked then glimpse? true t
    else some c

/-- The next character that counts. -/
def peek? (spaced : Bool) (t : Text) : Option Char :=
  if spaced then glimpse? false t else t.head?

/-! ## Escapes -/

/-- What a backslash and the characters behind it stand for. -/
inductive Escape where
  | char (c : Char) (byte : Bool)
  | kind (negated : Bool)
  | lineEnd
  | wordEnd

/-- So many hexadecimal digits. -/
def digits? (spaced : Bool) : Nat → Reader Text
  | 0, t => some ([], t)
  | n + 1, t =>
    match skip spaced t with
    | [] => none
    | c :: t =>
      if (hexDigit? c).isSome then (digits? spaced n t).map fun (ds, rest) => (c :: ds, rest)
      else none

/-- The character whose number is written in so many hexadecimal digits. -/
def numbered? (spaced : Bool) (width : Nat) (t : Text) : Option (Escape × Text) := do
  let (ds, rest) ← digits? spaced width t
  some (.char (← charOf? (← hexNumber? ds)) (width = 2), rest)

/-- An escape, read behind its backslash.  A sign of ASCII stands for itself. -/
def escape? (spaced : Bool) : Reader Escape
  | [] => none
  | c :: t =>
    if c = 'x' then numbered? spaced 2 t
    else if c = 'u' then numbered? spaced 4 t
    else if c = 'U' then numbered? spaced 8 t
    else if c ∈ ['d', 's', 'w'] then some (.kind false, t)
    else if c ∈ ['D', 'S', 'W'] then some (.kind true, t)
    else if c ∈ ['A', 'z'] then some (.lineEnd, t)
    else if c ∈ ['b', 'B', '<', '>'] then some (.wordEnd, t)
    else if c = 'a' then some (.char '\x07' false, t)
    else if c = 't' then some (.char '\t' false, t)
    else if c = 'n' then some (.char '\n' false, t)
    else if c = 'v' then some (.char '\x0B' false, t)
    else if c = 'f' then some (.char '\x0C' false, t)
    else if c = 'r' then some (.char '\r' false, t)
    else if c.toNat < 0x80 && !c.isAlphanum then some (.char c false, t)
    else none

/-! ## Sets of characters -/

/-- One character or kind of characters. -/
def single? (spaced : Bool) : Reader Escape
  | [] => none
  | '\\' :: t => escape? spaced t
  | c :: t => some (.char c false, t)

/-- A member of a set that is no set itself.  A minus makes a range, unless the set ends behind it
or another minus follows. -/
def member? (spaced : Bool) (t : Text) : Option (Member × Text) := do
  let (first, rest) ← single? spaced t
  let rest := skip spaced rest
  let next := peek? spaced (rest.drop 1)
  if Text.startsWith '-' rest && next != some ']' && next != some '-' then
    let (last, rest) ← single? spaced (skip spaced (rest.drop 1))
    match first, last with
    | .char a _, .char b _ => if a ≤ b then some (.range a b, rest) else none
    | _, _ => none
  else
    match first with
    | .char c _ => some (.range c c, rest)
    | .kind negated => some (.kind negated, rest)
    | _ => none

def classNames : List String :=
  ["alnum", "alpha", "ascii", "blank", "cntrl", "digit", "graph", "lower", "print", "punct",
   "space", "upper", "word", "xdigit"]

/-- A class with a name, read behind its bracket: whether it is negated. -/
def classNamed? (t : Text) : Option (Bool × Text) := do
  let t ← word? ":" t
  let (negated, t) := match t with
    | '^' :: t => (true, t)
    | t => (false, t)
  let rest ← classNames.findSome? fun name => word? (name ++ ":]") t
  some (negated, rest)

/-- A set of which the closing bracket is still to come. -/
structure OpenSet where
  negated : Bool
  /-- What stands in front of the last operator. -/
  left : Option CharSet
  /-- The members behind it, the last one first. -/
  members : List Member

namespace OpenSet

/-- The set as far as it has been read. -/
def set (s : OpenSet) : CharSet :=
  match s.left with
  | none => .union s.members.reverse
  | some left => .combination left (.union s.members.reverse)

/-- The set with one more member. -/
def add (s : OpenSet) (m : Member) : OpenSet :=
  { s with members := m :: s.members }

/-- The set as the left side of an operator. -/
def operate (s : OpenSet) : OpenSet :=
  { s with left := some s.set, members := [] }

end OpenSet

/-- The number of minus signs in front, and the text behind them and behind what does not
count. -/
def minuses (spaced comment : Bool) : Text → Nat × Text
  | [] => (0, [])
  | c :: t =>
    if comment then minuses spaced (c != '\n') t
    else if spaced && Text.isBlank c then minuses spaced false t
    else if spaced && c == '#' then minuses spaced true t
    else if c == '-' then
      let (n, rest) := minuses spaced false t
      (n + 1, rest)
    else (0, c :: t)

/-- The start of a set, read behind its bracket.  Minus signs at the start are members, and so is a
closing bracket that would leave the set empty. -/
def openSet (spaced : Bool) (t : Text) : OpenSet × Text :=
  let t := skip spaced t
  let negated := Text.startsWith '^' t
  let (n, t) := minuses spaced false (if negated then t.drop 1 else t)
  if n = 0 && Text.startsWith ']' t then (⟨negated, none, [.range ']' ']']⟩, t.drop 1)
  else (⟨negated, none, List.replicate n (.range '-' '-')⟩, t)

/-- The rest of a set, inside of other sets, in so many steps at most. -/
def setRest? (spaced : Bool) : Nat → OpenSet → List OpenSet → Reader OpenSet
  | 0, _, _, _ => none
  | n + 1, s, outer, t =>
    match skip spaced t with
    | [] => none
    | ']' :: t =>
      match outer with
      | [] => some (s, t)
      | o :: outer => setRest? spaced n (o.add (.nested s.negated s.set)) outer t
    | '[' :: t =>
      match classNamed? t with
      | some (negated, t) => setRest? spaced n (s.add (.named negated)) outer t
      | none =>
        let (inner, t) := openSet spaced t
        setRest? spaced n inner (s :: outer) t
    | '&' :: '&' :: t => setRest? spaced n s.operate outer t
    | '-' :: '-' :: t => setRest? spaced n s.operate outer t
    | '~' :: '~' :: t => setRest? spaced n s.operate outer t
    | t =>
      match member? spaced t with
      | none => none
      | some (m, t) => setRest? spaced n (s.add m) outer t

/-- A set, read behind its opening bracket.  Each step takes at least one character, so there are
steps enough. -/
def charSet? (spaced : Bool) (t : Text) : Option (Piece × Text) :=
  let (s, rest) := openSet spaced t
  (setRest? spaced (t.length + 1) s [] rest).map fun (s, rest) => (.set s.negated s.set, rest)

/-! ## Groups -/

/-- A group of which the closing parenthesis is still to come. -/
structure OpenGroup where
  flags : Text := []
  /-- Whether blanks and comments do not count outside of the group. -/
  spacedOutside : Bool := false
  /-- The complete alternatives, the last one first. -/
  branches : List (List Piece) := []
  /-- The pieces of the alternative at hand, the last one first. -/
  pieces : List Piece := []

namespace OpenGroup

/-- The alternatives as far as they have been read. -/
def alternatives (g : OpenGroup) : Expression :=
  (g.pieces.reverse :: g.branches).reverse

/-- The group with one more piece. -/
def add (g : OpenGroup) (p : Piece) : OpenGroup :=
  { g with pieces := p :: g.pieces }

/-- The group with its last piece repeated, if there is one; a change of the mode cannot be. -/
def repeatLast? (g : OpenGroup) : Option OpenGroup :=
  match g.pieces with
  | [] => none
  | .flags _ :: _ => none
  | p :: ps => some { g with pieces := .repeated p :: ps }

/-- The group with the alternative at hand complete. -/
def split (g : OpenGroup) : OpenGroup :=
  { g with branches := g.pieces.reverse :: g.branches, pieces := [] }

end OpenGroup

/-- What has been read in front of a place in an expression. -/
structure State where
  /-- The innermost open group, or the whole expression. -/
  group : OpenGroup := {}
  /-- The groups outside of it, the innermost one first. -/
  outer : List OpenGroup := []
  names : List Text := []
  /-- Whether blanks and comments do not count. -/
  spaced : Bool := false

namespace State

/-- One more piece has been read. -/
def add (s : State) (p : Piece) : State :=
  { s with group := s.group.add p }

/-- A group has been opened. -/
def enter (s : State) (flags : Text) : State :=
  { s with
    group := { flags := flags, spacedOutside := s.spaced }
    outer := s.group :: s.outer
    spaced := Mode.setting flags 'x' s.spaced }

/-- A group has been closed, if one was open. -/
def leave? (s : State) : Option State :=
  match s.outer with
  | [] => none
  | g :: outer =>
    some { s with
      group := g.add (.group s.group.flags s.group.alternatives)
      outer := outer
      spaced := s.group.spacedOutside }

end State

/-- Whether flags are known, none of them twice, and no minus stands at the end. -/
def flagsOk (flags : Text) : Bool :=
  flags.all (· ∈ "imsUuRx-".toList) && flags.eraseDups.length = flags.length
    && !Text.endsWith '-' flags

/-- Flags, for a group or for what follows, read behind the question mark. -/
def flags? (s : State) (t : Text) : Option (State × Text) :=
  match t.span fun c => c != ':' && c != ')' with
  | (flags, ':' :: t) => if flagsOk flags then some (s.enter flags, t) else none
  | (flags, ')' :: t) =>
    if flagsOk flags && !flags.isEmpty then
      some ({ s with spaced := Mode.setting flags 'x' s.spaced }.add (.flags flags), t)
    else none
  | _ => none

/-- Whether a text may name a group. -/
def isName (name : Text) : Bool :=
  name.head?.any (fun c => c == '_' || Text.isAlphabetic c)
    && name.all fun c => c ∈ "_.[]".toList || Text.isAlphanumeric c

/-- A group with a name, read behind the opening mark of the name. -/
def named? (s : State) (t : Text) : Option (State × Text) :=
  match t.span (· != '>') with
  | (name, '>' :: t) =>
    if isName name && !s.names.any (· == name) then
      some ({ s with names := name :: s.names }.enter [], t)
    else none
  | _ => none

/-- The opening of a group, or flags, read behind the parenthesis. -/
def group? (s : State) : Text → Option (State × Text)
  | '?' :: 'P' :: '<' :: t => named? s t
  | '?' :: '<' :: t => named? s t
  | '?' :: t => flags? s t
  | t => some (s.enter [], t)

/-! ## Expressions -/

/-- A repetition, read behind its mark; a question mark directly behind it belongs to it. -/
def repetition? (s : State) (t : Text) : Option (State × Text) :=
  let rest := match t with
    | '?' :: t => t
    | t => t
  s.group.repeatLast?.map fun g => ({ s with group := g }, rest)

def Escape.piece : Escape → Piece
  | .char c byte => .char c byte
  | .kind negated => .kind negated
  | .lineEnd => .lineEnd
  | .wordEnd => .wordEnd

/-- One step behind its first character. -/
def step? (s : State) (c : Char) (t : Text) : Option (State × Text) :=
  match c with
  | '(' => group? s (skip s.spaced t)
  | ')' => s.leave?.map fun s => (s, t)
  | '|' => some ({ s with group := s.group.split }, t)
  | '[' => (charSet? s.spaced t).map fun (p, t) => (s.add p, t)
  | '?' => repetition? s t
  | '*' => repetition? s t
  | '+' => repetition? s t
  | '\x7b' => none
  | '.' => some (s.add .any, t)
  | '^' => some (s.add .lineEnd, t)
  | '$' => some (s.add .lineEnd, t)
  | '\\' => (escape? s.spaced t).map fun (e, t) => (s.add e.piece, t)
  | c => some (s.add (.char c false), t)

/-- The rest of an expression, in so many steps at most. -/
def rest? : Nat → State → Text → Option Expression
  | 0, _, _ => none
  | n + 1, s, t =>
    match skip s.spaced t with
    | [] => if s.outer.isEmpty then some s.group.alternatives else none
    | c :: t =>
      match step? s c t with
      | none => none
      | some (s, t) => rest? n s t

/-- The expression that a text is.  Each step takes at least one character, so there are steps
enough. -/
def expression? (t : Text) : Option Expression :=
  rest? (t.length + 1) {} t

/-! ## Values -/

/-- Whether a text is an exponent, or nothing. -/
def isExponent : Text → Bool
  | [] => true
  | c :: t =>
    let digits := match t with
      | '-' :: t => t
      | '+' :: t => t
      | t => t
    (c == 'e' || c == 'E') && !digits.isEmpty && digits.all Char.isDigit

/-- Whether a text is a number without a sign. -/
def isUnsigned (t : Text) : Bool :=
  let (whole, rest) := t.span Char.isDigit
  let (fraction, rest) := match rest with
    | '.' :: rest => rest.span Char.isDigit
    | rest => ([], rest)
  ["inf", "infinity", "nan"].any (fun w => Text.foldLower t = w.toList)
    || (!(whole ++ fraction).isEmpty && isExponent rest)

/-- Whether a text is a number or an expression that makes sense.  A number is such an expression,
too, unless it starts with a plus. -/
def isValue : Text → Bool
  | '+' :: t => isUnsigned t
  | t => (expression? t).any Expression.isSound

example : isValue "a.*(b|[^c-d\\]])+?".toList := by decide +kernel
example : ¬ isValue "a|*".toList := by decide +kernel
example : ¬ isValue "[z-a]".toList := by decide +kernel
example : isValue "(?-u)\\d".toList ∧ ¬ isValue "\\d".toList := by decide +kernel
example : (expression? "((a*b))|[c[d]]".toList).map Expression.depth = some 5 := by decide +kernel

end InstallAudit.Pattern
