import InstallAudit.Log
import InstallAudit.Log.Pattern.Reader

/-!
# Filters as texts

A filter is written as directives with commas between them.  A directive is a level, a target, or a
target with a level behind an equals sign.  Behind the target, between brackets, it may name a
stretch of time in the program and, between braces, a field of the events, perhaps with a value.

* `Filter.levelNamed?` — a level, by its name or its number.
* `Filter.directive?` — one directive.
* `Filter.parse?` — the filter that a text describes, or nothing when a directive makes no sense.
-/

namespace InstallAudit.Filter

/-! ## Levels -/

/-- The numeral of a natural number, perhaps with a plus in front. -/
def numeral? (t : Text) : Option Nat :=
  let digits := match t with
    | '+' :: t => t
    | t => t
  if digits.isEmpty || !digits.all Char.isDigit then none
  else some (digits.foldl (fun n c => n * 10 + (c.toNat - '0'.toNat)) 0)

/-- The level with a name or a number; nothing inside means that nothing is let through. -/
def levelNamed? (t : Text) : Option (Option Level) :=
  let word := t.foldUpper
  if word = "OFF".toList ∨ numeral? t = some 0 then some none
  else (Level.all.find? fun l => l.name = word ∨ numeral? t = some l.rank).map some

/-- The level of a directive: everything, unless a level is written. -/
def levelPart? : Text → Option (Option Level)
  | [] => some (some .trace)
  | t => levelNamed? t

/-! ## Directives

Blanks at the ends of a directive do not count where its marks are looked for.  The words between
the marks are cut out of the text with its blanks all the same, as many bytes behind its start as
the marks have been found behind the first blanks. -/

/-- Whether a directive may start with a character. -/
def opens (c : Char) : Bool :=
  c == '[' || c == '-' || c == ':' || c == '_' || Text.isAlphanumeric c

/-- So many bytes of a text, from a place on. -/
def cut? (start length : Nat) (t : Text) : Option Text := do
  let (_, rest) ← Text.splitAtByte? start t
  let (word, _) ← Text.splitAtByte? length rest
  some word

/-- The level from a place on, where an equals sign stands in front of the place. -/
def levelFrom? (start : Nat) (t : Text) : Option (Option Level) :=
  (Text.splitAtByte? start t).bind fun (_, level) => levelPart? level

/-- The level behind the brackets, which end at a place. -/
def levelBehind? (tail : Text) (place : Nat) (t : Text) : Option (Option Level) :=
  match tail with
  | [] => some (some .trace)
  | '=' :: _ => levelFrom? (place + 1) t
  | _ => none

/-- The field of a directive: its name, and whether a value is asked for. -/
def field? (t : Text) : Option (Text × Bool) :=
  match t.splitOn '=' with
  | name :: value :: _ => if Pattern.isValue value then some (name, true) else none
  | [name] => if name.isEmpty then none else some (name, false)
  | [] => none

/-- What the brackets of a directive hold: whether they name a stretch of time or ask for a value;
the name of the field; and the level behind them.  They are read behind the opening one, which
ends at a place. -/
def brackets? (body : Text) (place : Nat) (t : Text) :
    Option (Bool × Option Text × Option Level) :=
  let (stretch, rest) := body.span fun c => c != ']' && c != '\x7b'
  let place := place + Text.byteLength stretch + 1
  match rest with
  | ']' :: tail => (levelBehind? tail place t).map fun level => (true, none, level)
  | '\x7b' :: body =>
    let (field, rest) := body.span (· != '\x7d')
    match rest with
    | '\x7d' :: ']' :: tail => do
      let (name, valued) ← field? (← cut? place (Text.byteLength field) t)
      let level ← levelBehind? tail (place + Text.byteLength field + 2) t
      some (!stretch.isEmpty || valued, some name, level)
    | _ => none
  | _ => none

/-- A directive.  One that names a stretch of time or asks for a value is understood and covers
nothing, because events have neither. -/
def directive? (t : Text) : Option (List Directive) :=
  let words := t.trim
  if !words.head?.any opens then none
  else
    let (head, rest) := words.span fun c => c != '=' && c != '['
    match rest with
    | [] =>
      match levelNamed? t with
      | some level => some [⟨none, none, level⟩]
      | none => some [⟨some t, none, some .trace⟩]
    | '=' :: _ => do
      let target ← cut? 0 (Text.byteLength head) t
      let level ← levelFrom? (Text.byteLength head + 1) t
      some [⟨some target, none, level⟩]
    | _ :: body => do
      let target ← if head.isEmpty then some none else (cut? 0 (Text.byteLength head) t).map some
      let (elsewhere, field, level) ← brackets? body (Text.byteLength head + 1) t
      some (if elsewhere then [] else [⟨target, field, level⟩])

/-- The filter that a text describes.  There may be nothing between two commas. -/
def parse? (t : Text) : Option Filter :=
  (((t.splitOn ',').filter fun part => !part.isEmpty).mapM directive?).map List.flatten

example : parse? "warn,a=debug".toList
    = some [⟨none, none, some .warn⟩, ⟨some ['a'], none, some .debug⟩] := by decide +kernel
example : parse? "warn ".toList = some [⟨some "warn ".toList, none, some .trace⟩] := by
  decide +kernel
example : parse? "a=b".toList = none ∧ parse? "a[b]".toList = some [] := by decide +kernel

end InstallAudit.Filter
