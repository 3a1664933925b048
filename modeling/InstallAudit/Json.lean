import InstallAudit.Document
import InstallAudit.Text.Reader

/-!
# Reading JSON

A JSON text is one value, with blanks around it.  Values may be nested up to `maxNesting` levels
deep.  The entries of a table are kept in the order of their keys, whatever order the text has
them in; of several entries with one key the last one counts.

* `number?` — a number: an integer of 64 bits, or a floating point number.
* `string?` — a string, with its escapes resolved.
* `value?` — one value.
* `document?` — the document of a text, or nothing when the text is no JSON.
-/

namespace InstallAudit.Json

open Reader (before mark? word? charOf? hexNumber? valueOf separated separator length_of_word?)

/-- Whether a character may stand between the values. -/
def isSpace (c : Char) : Bool :=
  c == ' ' || c == '\t' || c == '\n' || c == '\r'

/-- The text behind its leading blanks. -/
def blanks (t : Text) : Text :=
  t.dropWhile isSpace

/-! ## Numbers -/

/-- The first number that has more than 64 bits. -/
def wordBound : Nat := 0x10000000000000000

/-- Write digits behind a number as long as it stays within 64 bits, and what digits are left. -/
def extend (n : Nat) : Text → Nat × Text
  | [] => (n, [])
  | c :: t =>
    let more := n * 10 + valueOf 10 [c]
    if more < wordBound then extend more t else (n, c :: t)

def tenTo (e : Int) : Binary64 :=
  .ofDecimal false 1 e

/-- A number of at most 64 bits times a power of ten, rounded at each step.  A number beyond the
range of the format is refused. -/
def scaled? (x : Binary64) (scale : Int) : Option Binary64 :=
  if 308 < scale then
    match x with
    | .finite _ 0 _ => some x
    | _ => none
  else if 0 ≤ scale then
    match x.product (tenTo scale) with
    | .infinite _ => none
    | y => some y
  else if -308 ≤ scale then some (x.quotient (tenTo (-scale)))
  else some ((x.quotient (tenTo 308)).quotient (tenTo (min 308 (-scale - 308))))

/-- The floating point number with the given digits in front of the point, digits behind it, and
exponent.  The digits count as far as they fit in 64 bits; further digits in front of the point
count as zeros, and further ones behind it not at all. -/
def floatOf? (negative : Bool) (whole fraction : Text) (exponent : Int) : Option Binary64 :=
  let (n, zeros) := extend 0 whole
  let (n, unused) := extend n fraction
  let used := fraction.length - unused.length
  scaled? (.ofDecimal negative n 0) (exponent + zeros.length - used)

/-- The value of a number without fraction and exponent: an integer if it has 64 bits, with or
without a sign.  Minus zero is a floating point number. -/
def integerOf? (negative : Bool) (whole : Text) : Option Document :=
  let n := valueOf 10 whole
  if negative then
    if 0 < n ∧ n ≤ wordBound / 2 then some (.integer (-n))
    else (floatOf? negative whole [] 0).map .float
  else if n < wordBound then some (.integer n)
  else (floatOf? negative whole [] 0).map .float

def digits? (t : Text) : Option (Text × Text) :=
  match t.span Char.isDigit with
  | ([], _) => none
  | (ds, rest) => some (ds, rest)

/-- The digits of an integer: a lone zero, or digits that start with another one. -/
def whole? : Reader Text
  | '0' :: t => some (['0'], t)
  | t => digits? t

/-- The exponent of a number, with its mark. -/
def exponent? : Reader Int
  | c :: t =>
    if c = 'e' ∨ c = 'E' then do
      let (negative, t) := match t with
        | '-' :: t => (true, t)
        | '+' :: t => (false, t)
        | t => (false, t)
      let (ds, rest) ← digits? t
      let n : Int := valueOf 10 ds
      some (if negative then -n else n, rest)
    else none
  | [] => none

def number? (t : Text) : Option (Document × Text) := do
  let (negative, t) := match t with
    | '-' :: t => (true, t)
    | t => (false, t)
  let (whole, t) ← whole? t
  let behind := (mark? '.' t).bind digits?
  let (fraction, t) := behind.getD ([], t)
  let power := exponent? t
  let (e, rest) := power.getD (0, t)
  if behind.isNone ∧ power.isNone then some (← integerOf? negative whole, rest)
  else some (.float (← floatOf? negative whole fraction e), rest)

/-! ## Strings -/

/-- The character that a letter behind a backslash stands for. -/
def escapeOf? : Char → Option Char
  | '"' => some '"'
  | '\\' => some '\\'
  | '/' => some '/'
  | 'b' => some '\x08'
  | 'f' => some '\x0C'
  | 'n' => some '\n'
  | 'r' => some '\r'
  | 't' => some '\t'
  | _ => none

/-- The number of four hexadecimal digits. -/
def unit? (t : Text) : Option (Nat × Text) :=
  if (t.take 4).length < 4 then none else (hexNumber? (t.take 4)).map (·, t.drop 4)

/-- A character by its number, read behind `\u`.  A character beyond the numbers of four digits
is written as two halves; a half alone is no character. -/
def numbered? (t : Text) : Option (Char × Text) := do
  let (n, t) ← unit? t
  if 0xD800 ≤ n ∧ n < 0xDC00 then
    let (low, t) ← unit? (← word? "\\u" t)
    if 0xDC00 ≤ low ∧ low < 0xE000 then
      some (← charOf? (0x10000 + (n - 0xD800) * 0x400 + (low - 0xDC00)), t)
    else none
  else some (← charOf? n, t)

/-- An escape, read behind its backslash. -/
def escape? : Reader Char
  | 'u' :: t => numbered? t
  | c :: t => (escapeOf? c).map (·, t)
  | [] => none

theorem length_of_unit? {t : Text} {r : Nat × Text} (h : unit? t = some r) :
    r.2.length ≤ t.length := by
  unfold unit? at h
  split at h
  · simp at h
  · simp only [Option.map_eq_some_iff] at h
    obtain ⟨_, _, rfl⟩ := h
    simp

theorem length_of_numbered? {t : Text} {r : Char × Text} (h : numbered? t = some r) :
    r.2.length ≤ t.length := by
  simp only [numbered?, Option.bind_eq_bind, Option.bind_eq_some_iff] at h
  obtain ⟨a, ha, h⟩ := h
  have := length_of_unit? ha
  split at h
  · simp only [Option.bind_eq_some_iff] at h
    obtain ⟨b, hb, c, hc, h⟩ := h
    have := length_of_word? hb
    have := length_of_unit? hc
    split at h
    · simp only [Option.bind_eq_some_iff, Option.some.injEq] at h
      obtain ⟨_, _, rfl⟩ := h
      simp only
      omega
    · simp at h
  · simp only [Option.bind_eq_some_iff, Option.some.injEq] at h
    obtain ⟨_, _, rfl⟩ := h
    simpa using this

theorem length_of_escape? {t : Text} {r : Char × Text} (h : escape? t = some r) :
    r.2.length < t.length := by
  unfold escape? at h
  split at h
  · have := length_of_numbered? h
    simp only [List.length_cons]
    omega
  · simp only [Option.map_eq_some_iff] at h
    obtain ⟨_, _, rfl⟩ := h
    simp
  · simp at h

/-- The rest of a string, read behind its opening quote. -/
def body? (t : Text) : Option (Text × Text) :=
  match t with
  | [] => none
  | '"' :: t => some ([], t)
  | '\\' :: t =>
    match h : escape? t with
    | some (c, rest) =>
      have := length_of_escape? h
      (body? rest).map (before c)
    | none => none
  | c :: t => if 0x20 ≤ c.toNat then (body? t).map (before c) else none
termination_by t.length
decreasing_by all_goals simp_all <;> omega

def string? (t : Text) : Option (Text × Text) :=
  (mark? '"' t).bind body?

/-! ## Values -/

/-- How deep values may be nested. -/
def maxNesting : Nat := 127

/-- Entries in the order of their keys, with one more; an entry with the same key is replaced. -/
def insert (key : Text) (d : Document) : List (Text × Document) → List (Text × Document)
  | [] => [(key, d)]
  | e :: entries =>
    if key < e.1 then (key, d) :: e :: entries
    else if key = e.1 then (key, d) :: entries
    else e :: insert key d entries

/-- The table of some entries in any order. -/
def tableOf (entries : List (Text × Document)) : Document :=
  .table (entries.foldl (fun sorted e => insert e.1 e.2 sorted) [])

/-- A value that holds no other values. -/
def scalar? (t : Text) : Option (Document × Text) :=
  ((word? "null" t).map (.null, ·)).or <|
  ((word? "true" t).map (.boolean true, ·)).or <|
  ((word? "false" t).map (.boolean false, ·)).or <|
  ((string? t).map fun (s, rest) => (.string s, rest)).or (number? t)

/-- An array, read behind its opening bracket. -/
def array? (value : Reader Document) (t : Text) : Option (Document × Text) := do
  let (items, t) := separated value (separator ',' blanks) (blanks t)
  some (.array items, ← mark? ']' (blanks t))

def pair? (value : Reader Document) (t : Text) : Option ((Text × Document) × Text) := do
  let (key, t) ← string? t
  let (d, t) ← value (← separator ':' blanks t)
  some ((key, d), t)

/-- A table, read behind its opening brace. -/
def table? (value : Reader Document) (t : Text) : Option (Document × Text) := do
  let (entries, t) := separated (pair? value) (separator ',' blanks) (blanks t)
  some (tableOf entries, ← mark? '\x7d' (blanks t))

/-- A value that is nested at most so many levels deep. -/
def value? : Nat → Reader Document
  | 0, t => scalar? t
  | n + 1, t =>
    match t with
    | '[' :: t => array? (value? n) t
    | '\x7b' :: t => table? (value? n) t
    | t => scalar? t

/-- The document of a JSON text. -/
def document? (t : Text) : Option Document := do
  let (d, rest) ← value? maxNesting (blanks t)
  if (blanks rest).isEmpty then some d else none

example : (document? "[1.50, -0, 1e20, -7]".toList).map Document.pretty
    = some "[\n  1.5,\n  -0.0,\n  1e+20,\n  -7\n]".toList := by decide +kernel
example : (document? "\"\\ud83d\\ude00\"".toList).map Document.pretty
    = some "\"😀\"".toList := by decide +kernel
example : (document? "[1,]".toList).isNone ∧ (document? "01".toList).isNone := by decide +kernel

end InstallAudit.Json
