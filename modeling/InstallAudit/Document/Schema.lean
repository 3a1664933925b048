import InstallAudit.Build
import InstallAudit.Document

/-!
# Schemas

A schema says how a document is read as a record: the fields that the record has, what each of
them accepts, and whether other fields are tolerated.  A record is written as a table, or as an
array of the values of its fields in order.

* `DecodeError` — why a document is no record of a kind, and the message about it.
* `Field` — one field of a record, with the change that its value makes.
* `Schema.decode` — read a document as a record, starting from given values.
-/

namespace InstallAudit

/-! ## Errors -/

/-- Why a document is not of the kind that was asked for. -/
inductive DecodeError where
  /-- A table has a field that the record does not have. -/
  | unknownField (name : Text) (known : List Text)
  /-- A name is none of the names of a choice. -/
  | unknownVariant (name : Text) (known : List Text)
  | wrongType (found expected : Text)
  /-- A value is of the right type and still not right. -/
  | wrongValue (found expected : Text)
  /-- An array has too few or too many items. -/
  | wrongLength (length : Nat) (expected : Text)
  | missingField (name : Text)
  /-- A value is neither a truth value nor a text. -/
  | noFlag
  /-- A text does not name a truth value. -/
  | invalidFlag (value : Text)
  /-- A choice is written as a value that is neither a text nor a table. -/
  | noChoice
  /-- A choice is written as a table without an entry. -/
  | emptyChoice
  /-- A choice is written as a table with several entries. -/
  | crowdedChoice
  /-- A choice is written as a table that holds something. -/
  | loadedChoice
  /-- A choice is written as a table that holds an array of tables. -/
  | headedChoice
  /-- A choice is written as a table that holds a value of some type. -/
  | valuedChoice (type : Text)
  deriving DecidableEq

def backquoted (name : Text) : Text :=
  "`".toList ++ name ++ "`".toList

def alternatives : List Text → Text
  | [] => []
  | [a] => backquoted a
  | [a, b] => backquoted a ++ " or ".toList ++ backquoted b
  | names => "one of ".toList ++ List.intercalate ", ".toList (names.map backquoted)

def DecodeError.message : DecodeError → Text
  | unknownField name known =>
    "unknown field ".toList ++ backquoted name ++ ", expected ".toList ++ alternatives known
  | unknownVariant name known =>
    "unknown variant ".toList ++ backquoted name ++ ", expected ".toList ++ alternatives known
  | wrongType found expected =>
    "invalid type: ".toList ++ found ++ ", expected ".toList ++ expected
  | wrongValue found expected =>
    "invalid value: ".toList ++ found ++ ", expected ".toList ++ expected
  | wrongLength length expected =>
    "invalid length ".toList ++ Text.ofNat length ++ ", expected ".toList ++ expected
  | missingField name => "missing field ".toList ++ backquoted name
  | noFlag => "data did not match any variant of untagged enum FlagValue".toList
  | invalidFlag value => flagMessage value
  | noChoice => "wanted string or table".toList
  | emptyChoice => "wanted exactly 1 element, found 0 elements".toList
  | crowdedChoice => "wanted exactly 1 element, more than 1 element".toList
  | loadedChoice => "expected empty table".toList
  | headedChoice => "expected empty array".toList
  | valuedChoice type => "expected table, found ".toList ++ type

/-! ## Values -/

/-- A reader of one kind of value. -/
abbrev Decoder (α : Type) := Format → Document → Except DecodeError α

namespace Decoder

def mismatch {α : Type} (expected : Text) : Decoder α := fun f d =>
  .error (.wrongType (d.shape f) expected)

def text : Decoder Text
  | _, .string t => .ok t
  | f, d => mismatch "a string".toList f d

def boolean : Decoder Bool
  | _, .boolean b => .ok b
  | f, d => mismatch "a boolean".toList f d

/-- A value that may be null. -/
def optional {α : Type} (inner : Decoder α) : Decoder (Option α)
  | _, .null => .ok none
  | f, d => (inner f d).map some

/-- An array of values of one kind. -/
def list {α : Type} (inner : Decoder α) : Decoder (List α)
  | f, .array items => items.mapM (inner f)
  | f, .tables items => items.mapM (inner f)
  | f, d => mismatch "a sequence".toList f d

end Decoder

/-! ## Records -/

/-- A field of a record: its name, and the record with the value of the field read into it. -/
structure Field (α : Type) where
  name : Text
  read : Format → Document → α → Except DecodeError α

/-- A field whose value a decoder reads and a setter stores. -/
def Field.of {α β : Type} (name : String) (inner : Decoder β) (set : β → α → α) : Field α where
  name := name.toList
  read f d a := (inner f d).map fun b => set b a

/-- The fields of a record. -/
structure Schema (α : Type) where
  /-- What the record is called in messages. -/
  title : Text
  fields : List (Field α)
  /-- Whether other fields are refused. -/
  closed : Bool := true

namespace Schema

def names {α : Type} (s : Schema α) : List Text :=
  s.fields.map Field.name

/-- Read one entry of a table. -/
def readEntry {α : Type} (s : Schema α) (f : Format) (a : α) (entry : Text × Document) :
    Except DecodeError α :=
  match s.fields.find? fun field => field.name = entry.1 with
  | some field => field.read f entry.2 a
  | none => if s.closed then .error (.unknownField entry.1 s.names) else .ok a

/-- Read the entries of a table in order. -/
def readEntries {α : Type} (s : Schema α) (f : Format) (entries : List (Text × Document)) (a : α) :
    Except DecodeError α :=
  entries.foldlM (s.readEntry f) a

/-- Read the items of an array as the values of the fields in order.  In JSON there must not be
more items than fields. -/
def readItems {α : Type} (s : Schema α) (f : Format) (items : List Document) (a : α) :
    Except DecodeError α := do
  let a ← (s.fields.zip items).foldlM (fun a (field, d) => field.read f d a) a
  if f = .json ∧ s.fields.length < items.length then
    .error (.wrongLength items.length "fewer elements in array".toList)
  else .ok a

/-- The name under which a moment in time travels. -/
def momentKey : Text :=
  "$__toml_private_datetime".toList

/-- Read a document as a record.  Fields that the document does not have keep the values of the
record at the start. -/
def decode {α : Type} (s : Schema α) (start : α) : Decoder α
  | f, .table entries => s.readEntries f entries start
  | f, .array items => s.readItems f items start
  | f, .tables items => s.readItems f items start
  | f, .datetime t => s.readEntries f [(momentKey, .string t)] start
  | f, d => .error (.wrongType (d.shape f) s.title)

end Schema

end InstallAudit
