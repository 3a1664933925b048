import InstallAudit.Toml.Lexeme
import InstallAudit.Toml.Table

/-!
# Reading TOML

A TOML text is a list of statements, one on a line: values under keys, and the headings of tables.
Version 1.0 of the format is read.  Values may be nested up to `maxNesting` levels deep, and a key
has at most as many parts.

* `value?` — one value.
* `statements?` — the statements of a text.
* `document?` — the document of a text, or nothing when the text is no TOML.
-/

namespace InstallAudit.Toml

open Reader (mark? separated separator)

/-! ## Keys and values -/

/-- How deep values may be nested. -/
def maxNesting : Nat := 79

/-- A key: its parts in front of the last one, and the last one. -/
def key? (t : Text) : Option ((List Text × Text) × Text) :=
  let (parts, rest) := separated keyPart? (separator '.' blanks) (blanks t)
  match parts.getLast? with
  | none => none
  | some last =>
    if parts.length ≤ maxNesting then some ((parts.dropLast, last), blanks rest) else none

/-- A value under a key: a key, an equals sign and a value. -/
def assignment? (value : Reader Document) (t : Text) :
    Option ((List Text × Text × Document) × Text) := do
  let ((path, key), t) ← key? t
  let (d, t) ← value (blanks (← mark? '=' t))
  some ((path, key, d), t)

/-- An array, read behind its opening bracket.  A comma may follow the last item. -/
def array? (value : Reader Document) (t : Text) : Option (Document × Text) := do
  let (items, t) := separated value (separator ',' gap) (gap t)
  let t := gap t
  let t := if items.isEmpty then t else ((mark? ',' t).map gap).getD t
  some (.array items, ← mark? ']' t)

/-- A table on one line, read behind its opening brace. -/
def inlineTable? (value : Reader Document) (t : Text) : Option (Document × Text) := do
  let (values, t) := separated (assignment? value) (separator ',' blanks) (blanks t)
  let table ← (Partial.new .heading).assignAll? values
  some (table.finish, ← mark? '\x7d' (blanks t))

/-- A value that is nested at most so many levels deep. -/
def value? : Nat → Reader Document
  | 0, t => scalar? t
  | n + 1, t =>
    match t with
    | '[' :: t => array? (value? n) t
    | '\x7b' :: t => inlineTable? (value? n) t
    | t => scalar? t

/-! ## Statements -/

/-- One line of a TOML text that says something. -/
inductive Statement where
  | value (path : List Text) (key : Text) (d : Document)
  | table (path : List Text) (key : Text)
  /-- The heading of an item of an array of tables. -/
  | item (path : List Text) (key : Text)

/-- A statement, to the end of its line. -/
def statement? : Reader Statement
  | '[' :: '[' :: t => do
    let ((path, key), t) ← key? t
    some (.item path key, ← lineRest? (← mark? ']' (← mark? ']' t)))
  | '[' :: t => do
    let ((path, key), t) ← key? t
    some (.table path key, ← lineRest? (← mark? ']' t))
  | t => do
    let ((path, key, d), t) ← assignment? (value? maxNesting) t
    some (.value path key d, ← lineRest? t)

/-- The statements of a text, if every line of it is blank, a comment or a statement. -/
def statements? (t : Text) : Option (List Statement) :=
  match gapToEnd t with
  | [] => some []
  | c :: cs =>
    match statement? (c :: cs) with
    | none => none
    | some (s, rest) =>
      if rest.length < t.length then (statements? rest).map (s :: ·) else none
termination_by t.length
where
  /-- The text behind blank lines and comments, a comment on the last line included. -/
  gapToEnd (t : Text) : Text :=
    let t := gap t
    if (comment t).isEmpty then [] else t

/-! ## Documents -/

/-- A heading of a table or of an item, or the start of the text, and the values behind it. -/
structure Part where
  heading : Option Statement
  values : List (List Text × Text × Document)

/-- The statements grouped by their headings. -/
def parts (heading : Option Statement) : List Statement → List Part
  | [] => [⟨heading, []⟩]
  | .value path key d :: rest =>
    match parts heading rest with
    | [] => []
    | first :: others => { first with values := (path, key, d) :: first.values } :: others
  | h :: rest => ⟨heading, []⟩ :: parts (some h) rest

/-- The table with one more part of the text. -/
def addPart? (t : Partial) (p : Part) : Option Partial :=
  match p.heading with
  | some (.table path key) => t.open? path key p.values
  | some (.item path key) => t.append? path key p.values
  | _ => t.assignAll? p.values

/-- The document of a TOML text. -/
def document? (t : Text) : Option Document := do
  let table ← (parts none (← statements? t.withoutMark)).foldlM addPart? (Partial.new .heading)
  some table.finish

end InstallAudit.Toml
