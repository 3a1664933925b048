import InstallAudit.Text.Blank

/-!
# Readers

A reader takes what it reads off the front of a text and returns the rest, or nothing when the
front is not of its kind.

* `Reader` — the type of readers.
* `mark?`, `word?` — the text behind a given character or word.
* `hexNumber?`, `valueOf` — numerals.
* `separated` — readings with a separator between them.
-/

namespace InstallAudit

/-- A reader takes a value off the front of a text. -/
abbrev Reader (α : Type) := Text → Option (α × Text)

namespace Reader

/-! ## Characters and words -/

/-- Put a character in front of what was read. -/
def before (c : Char) (r : Text × Text) : Text × Text :=
  (c :: r.1, r.2)

/-- One given character. -/
def mark? (c : Char) : Text → Option Text
  | d :: t => if d = c then some t else none
  | [] => none

/-- The text behind a given word. -/
def word? (w : String) (t : Text) : Option Text :=
  w.toList.isPrefixOf? t

/-- The text behind a word is not longer than the text. -/
theorem length_of_word? {w : String} {t rest : Text} (h : word? w t = some rest) :
    rest.length ≤ t.length := by
  unfold word? at h
  generalize w.toList = cs at h
  induction cs generalizing t with
  | nil => exact Nat.le_of_eq (congrArg List.length (Option.some.inj h).symm)
  | cons c cs ih =>
    cases t with
    | nil => cases h
    | cons d t =>
      change (if c == d then cs.isPrefixOf? t else none) = some rest at h
      split at h
      · exact Nat.le_succ_of_le (ih h)
      · simp at h

/-! ## Numerals -/

/-- The character with a code point, if there is one. -/
def charOf? (n : Nat) : Option Char :=
  if n.isValidChar then some (Char.ofNat n) else none

/-- The value of a hexadecimal digit. -/
def hexDigit? (c : Char) : Option Nat :=
  if c.isDigit then some (c.toNat - '0'.toNat)
  else if 'a' ≤ c ∧ c ≤ 'f' then some (c.toNat - 'a'.toNat + 10)
  else if 'A' ≤ c ∧ c ≤ 'F' then some (c.toNat - 'A'.toNat + 10)
  else none

/-- The value of a hexadecimal numeral in which every character has to be a digit. -/
def hexNumber? (t : Text) : Option Nat :=
  t.foldlM (fun n c => (hexDigit? c).map (n * 16 + ·)) 0

/-- The value of digits in a base. -/
def valueOf (base : Nat) (digits : Text) : Nat :=
  digits.foldl (fun n c => n * base + (hexDigit? c).getD 0) 0

/-! ## Lists of readings -/

/-- Readings with a separator between them, as many as there are; after the last reading the text
does not go on with a separator and a reading.  Each reading has to take something off the text. -/
def separated {α : Type} (item : Reader α) (sep : Text → Option Text) (t : Text) : List α × Text :=
  match item t with
  | none => ([], t)
  | some (a, rest) =>
    match sep rest with
    | none => ([a], rest)
    | some next =>
      if next.length < t.length then
        match separated item sep next with
        | ([], _) => ([a], rest)
        | (as, rest) => (a :: as, rest)
      else ([a], rest)
termination_by t.length

/-- One given character, with the text in front of it and behind it prepared. -/
def separator (c : Char) (skip : Text → Text) (t : Text) : Option Text :=
  (mark? c (skip t)).map skip

end Reader

end InstallAudit
