import InstallAudit.Document

/-!
# Tables under construction

A TOML text defines its tables piece by piece, in any order, and each table only once.  Whether a
later piece may still add to a table depends on how the table came about.

* `Origin` — how a table came about.
* `Node` — what a key of a table under construction holds.
* `Partial.assign?` — the table with one more value, under a key of one or more parts.
* `Partial.open?`, `Partial.append?` — the table with one more table, or with one more item in an
  array of tables.
* `Partial.finish` — the document, once nothing is left to add.
-/

namespace InstallAudit.Toml

/-- How a table came about. -/
inductive Origin where
  /-- By a heading of its own. -/
  | heading
  /-- By the heading of a table inside it. -/
  | implied
  /-- By a key of several parts. -/
  | dotted
  deriving DecidableEq

/-- What a key of a table under construction holds: a value, a table, or an array of tables.  The
entries of a table are in order of appearance. -/
inductive Node where
  | value (d : Document)
  | table (origin : Origin) (entries : List (Text × Node))
  | tables (items : List (List (Text × Node)))

/-- The entries of a table under construction. -/
abbrev Entries := List (Text × Node)

/-- A table under construction. -/
structure Partial where
  origin : Origin
  entries : Entries

namespace Partial

def new (origin : Origin) : Partial :=
  ⟨origin, []⟩

def find? (t : Partial) (key : Text) : Option Node :=
  t.entries.lookup key

/-- The table with a new key at its end. -/
def add (t : Partial) (key : Text) (node : Node) : Partial :=
  { t with entries := t.entries ++ [(key, node)] }

/-- The table with something else under a key that it has. -/
def replace (t : Partial) (key : Text) (node : Node) : Partial :=
  { t with entries := t.entries.map fun e => if e.1 = key then (key, node) else e }

def erase (t : Partial) (key : Text) : Partial :=
  { t with entries := t.entries.filter fun e => e.1 ≠ key }

/-! ## Going down a key -/

/-- Change the table that the parts of a key lead to.  Tables on the way that do not exist yet
come about with the given origin.  An array of tables leads to its last item.  A value leads
nowhere, and a key of several parts never enters a table that has a heading. -/
def update? (origin : Origin) (change : Partial → Option Partial) :
    List Text → Partial → Option Partial
  | [], t => change t
  | key :: path, t =>
    match t.find? key with
    | none => do
      let inner ← update? origin change path (new origin)
      some (t.add key (.table inner.origin inner.entries))
    | some (.table o entries) =>
      if origin = .dotted ∧ o = .heading then none
      else do
        let inner ← update? origin change path ⟨o, entries⟩
        some (t.replace key (.table inner.origin inner.entries))
    | some (.tables items) =>
      match items.getLast? with
      | none => none
      | some last => do
        let inner ← update? origin change path ⟨.heading, last⟩
        some (t.replace key (.tables (items.dropLast ++ [inner.entries])))
    | some (.value _) => none

/-- The table with one more value.  A key of several parts may only add to tables that came about
by such a key, and a key of one part only to tables that did not. -/
def assign? (t : Partial) (path : List Text) (key : Text) (d : Document) : Option Partial :=
  t.update? .dotted (fun inner =>
    if (inner.origin = .dotted) ↔ path = [] then none
    else if (inner.find? key).isSome then none
    else some (inner.add key (.value d))) path

/-- The table with the values of a heading, none of which may be there yet. -/
def assignAll? (t : Partial) (values : List (List Text × Text × Document)) : Option Partial :=
  values.foldlM (fun t v => t.assign? v.1 v.2.1 v.2.2) t

/-! ## Headings -/

/-- The table with a table of its own under a key.  A table that was only implied so far is taken
over, and moves to the end. -/
def open? (t : Partial) (path : List Text) (key : Text)
    (values : List (List Text × Text × Document)) : Option Partial :=
  t.update? .implied (fun outer => do
    let start ←
      match outer.find? key with
      | none => some (new .heading)
      | some (.table .implied entries) => some ⟨.heading, entries⟩
      | some _ => none
    let inner ← start.assignAll? values
    some ((outer.erase key).add key (.table .heading inner.entries))) path

/-- The table with one more item in an array of tables. -/
def append? (t : Partial) (path : List Text) (key : Text)
    (values : List (List Text × Text × Document)) : Option Partial :=
  t.update? .implied (fun outer => do
    let inner ← (new .heading).assignAll? values
    match outer.find? key with
    | none => some (outer.add key (.tables [inner.entries]))
    | some (.tables items) => some (outer.replace key (.tables (items ++ [inner.entries])))
    | some _ => none) path

/-! ## The document -/

mutual

/-- The document of what a key holds. -/
def finishNode : Node → Document
  | .value d => d
  | .table _ entries => .table (finishEntries entries)
  | .tables items => .tables (finishItems items)

def finishEntries : List (Text × Node) → List (Text × Document)
  | [] => []
  | (key, node) :: entries => (key, finishNode node) :: finishEntries entries

/-- The documents of the items of an array of tables. -/
def finishItems : List (List (Text × Node)) → List Document
  | [] => []
  | entries :: items => .table (finishEntries entries) :: finishItems items

end

def finish (t : Partial) : Document :=
  .table (finishEntries t.entries)

end Partial

end InstallAudit.Toml
