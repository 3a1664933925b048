import InstallAudit.Number.Binary64
import InstallAudit.Text.Quoted

/-!
# Documents

A document is a tree of values: what a configuration file says before it is known to be a
configuration.  TOML and JSON differ in how they write documents and in a few words that are used
when a document has the wrong shape.

* `Document` — the tree.
* `Document.shape` — what a value is, in the words of a message.
* `Document.pretty` — a document as indented JSON.
-/

namespace InstallAudit

/-- A tree of values.  The entries of a table keep their order. -/
inductive Document where
  | null
  | boolean (b : Bool)
  | integer (n : Int)
  | float (x : Binary64)
  | string (t : Text)
  | datetime (t : Text)
  | array (items : List Document)
  /-- An array of tables that was built heading by heading. -/
  | tables (items : List Document)
  | table (entries : List (Text × Document))
  deriving Inhabited

/-- The two formats of documents. -/
inductive Format where
  | toml
  | json
  deriving DecidableEq

namespace Document

/-- The two words for a truth value. -/
def ofBool : Bool → Text
  | true => "true".toList
  | false => "false".toList

/-- What a value is, in the words of a message.  Moments in time are said to be maps, because that
is how they travel. -/
def shape (f : Format) : Document → Text
  | null => "null".toList
  | boolean b => "boolean `".toList ++ ofBool b ++ "`".toList
  | integer n => "integer `".toList ++ Text.ofInt n ++ "`".toList
  | float x =>
    let digits := match f with
      | .toml => x.positional
      | .json => x.compact
    "floating point `".toList ++ digits ++ "`".toList
  | string t => "string ".toList ++ t.quoted
  | datetime _ => "map".toList
  | array _ => "sequence".toList
  | tables _ => "sequence".toList
  | table _ => "map".toList

/-- The value of an optional entry. -/
def ofOption {α : Type} (write : α → Document) : Option α → Document
  | none => null
  | some a => write a

/-! ## Indented JSON -/

/-- A new line at some depth. -/
def newline (depth : Nat) : Text :=
  '\n' :: List.replicate (2 * depth) ' '

mutual

/-- A document as JSON at some depth. -/
def prettyAt (depth : Nat) : Document → Text
  | null => "null".toList
  | boolean b => ofBool b
  | integer n => Text.ofInt n
  | float x => x.compact
  | string t => t.jsonQuoted
  | datetime t => t.jsonQuoted
  | array items => prettyArray depth items
  | tables items => prettyArray depth items
  | table [] => "\x7b\x7d".toList
  | table ((key, value) :: entries) =>
    '\x7b' :: newline (depth + 1) ++ key.jsonQuoted ++ ": ".toList ++ prettyAt (depth + 1) value
      ++ prettyEntries (depth + 1) entries ++ newline depth ++ ['\x7d']

/-- An array as JSON at some depth. -/
def prettyArray (depth : Nat) : List Document → Text
  | [] => "[]".toList
  | item :: items =>
    '[' :: newline (depth + 1) ++ prettyAt (depth + 1) item ++ prettyItems (depth + 1) items
      ++ newline depth ++ [']']

/-- The items of an array behind the first one. -/
def prettyItems (depth : Nat) : List Document → Text
  | [] => []
  | item :: items => ',' :: newline depth ++ prettyAt depth item ++ prettyItems depth items

/-- The entries of a table behind the first one. -/
def prettyEntries (depth : Nat) : List (Text × Document) → Text
  | [] => []
  | (key, value) :: entries =>
    ',' :: newline depth ++ key.jsonQuoted ++ ": ".toList ++ prettyAt depth value
      ++ prettyEntries depth entries

end

/-- A document as indented JSON. -/
def pretty (d : Document) : Text :=
  prettyAt 0 d

end Document

end InstallAudit
