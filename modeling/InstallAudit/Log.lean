import InstallAudit.Text.Search

/-!
# The log

A run says what it does on the way.  What a reader sees of it is chosen by a filter.

* `Event` — one message, with its level and the part of the program that it comes from.
* `Filter` — directives that choose levels for parts of the program.
* `Event.line` — an event as a line of the log.
-/

namespace InstallAudit

/-! ## Events -/

/-- How important an event is, the most important level first. -/
inductive Level where
  | error
  | warn
  | info
  | debug
  | trace
  deriving DecidableEq

namespace Level

/-- The place of a level in the order of importance. -/
def rank : Level → Nat
  | error => 1
  | warn => 2
  | info => 3
  | debug => 4
  | trace => 5

def name : Level → Text
  | error => "ERROR".toList
  | warn => "WARN".toList
  | info => "INFO".toList
  | debug => "DEBUG".toList
  | trace => "TRACE".toList

def all : List Level :=
  [error, warn, info, debug, trace]

end Level

/-- The part of the program that an event comes from. -/
inductive Source where
  | listing
  | check
  | reconciliation
  | commandLine
  deriving DecidableEq

/-- The name under which filters know a part of the program. -/
def Source.name : Source → Text
  | listing => "instcheck_schema::manifest".toList
  | check => "instcheck_core::engine".toList
  | reconciliation => "instcheck_core::reconcile".toList
  | commandLine => "instcheck".toList

/-- One message of the log. -/
structure Event where
  level : Level
  source : Source
  message : Text
  deriving DecidableEq

/-- The name of the field in which every event has its message; events have no other field. -/
def Event.field : Text := "message".toList

/-! ## Filters -/

/-- A directive lets events up to a level through, for the parts of the program whose names start
with its target, if the events have its field.  Without a level it lets nothing through; without a
target it speaks of all parts, and without a field of all events. -/
structure Directive where
  target : Option Text
  field : Option Text
  level : Option Level
  deriving DecidableEq

/-- The directives of a filter, in order. -/
abbrev Filter := List Directive

namespace Directive

/-- Whether a directive speaks of an event. -/
def covers (d : Directive) (e : Event) : Bool :=
  d.target.all (fun target => target.isPrefixOf e.source.name) && d.field.all (· == Event.field)

/-- Whether a directive lets an event through. -/
def admits (d : Directive) (e : Event) : Bool :=
  match d.level with
  | none => false
  | some level => e.level.rank ≤ level.rank

/-- How closely a directive names the events of which it speaks: by a longer target more closely
than by a shorter one, and among equal targets more closely with a field. -/
def closeness (d : Directive) : Nat :=
  let target := match d.target with
    | none => 0
    | some target => target.length + 1
  2 * target + if d.field.isSome then 1 else 0

end Directive

namespace Filter

/-- The directive that decides about an event: of those that speak of it, the one that names it
most closely, and of several such directives the last one. -/
def decisive? (e : Event) : Filter → Option Directive
  | [] => none
  | d :: rest =>
    match decisive? e rest with
    | none => if d.covers e then some d else none
    | some other =>
      if d.covers e && other.closeness < d.closeness then some d else some other

def admits (f : Filter) (e : Event) : Bool :=
  (decisive? e f).any fun d => d.admits e

/-- The filter that lets events up to a level through. -/
def upTo (level : Level) : Filter :=
  [⟨none, none, some level⟩]

end Filter

/-! ## Lines -/

/-- A character of a message.  Characters that steer a terminal are shown, not sent. -/
def shownChar (c : Char) : Text :=
  if c = '\x1B' then "\\x1b".toList
  else if c = '\x07' then "\\x07".toList
  else if c = '\x08' then "\\x08".toList
  else if c = '\x0C' then "\\x0c".toList
  else if c = '\x7F' then "\\x7f".toList
  else if 0x80 ≤ c.toNat ∧ c.toNat ≤ 0x9F then
    "\\u\x7b".toList ++ Nat.toDigits 16 c.toNat ++ ['\x7d']
  else [c]

/-- An event as a line of the log, with the level right-aligned in five columns. -/
def Event.line (e : Event) : Text :=
  List.replicate (5 - e.level.name.length) ' ' ++ e.level.name
    ++ ' ' :: e.message.flatMap shownChar ++ ['\n']

/-- The lines of the events that a filter lets through. -/
def Filter.render (f : Filter) (events : List Event) : Text :=
  (events.filter f.admits).flatMap Event.line

end InstallAudit
