/-!
# Blank characters and trimming

A text is the list of its characters.  A character is *blank* when it has the Unicode property
`White_Space`; the zero-width space and the byte order mark do not have it.

* `isBlank` — the table of the property.
* `trimBoth`, `trimEnd` — a text without the characters of a class at its ends.
* `trim` — a text without blanks at its ends.
* `withoutMark` — a text without a byte order mark in front.
-/

namespace InstallAudit

/-- A text is the list of its characters. -/
abbrev Text := List Char

namespace Text

/-! ## The table -/

/-- The ranges of code points, both ends included, that have the property `White_Space`. -/
def blankRanges : List (Nat × Nat) :=
  [(0x09, 0x0D), (0x20, 0x20), (0x85, 0x85), (0xA0, 0xA0), (0x1680, 0x1680), (0x2000, 0x200A),
   (0x2028, 0x2029), (0x202F, 0x202F), (0x205F, 0x205F), (0x3000, 0x3000)]

/-- Whether a code point lies in one of the ranges of a table. -/
def inRanges (table : List (Nat × Nat)) (c : Char) : Bool :=
  table.any fun r => r.1 ≤ c.toNat && c.toNat ≤ r.2

def isBlank (c : Char) : Bool :=
  inRanges blankRanges c

/-- The property covers 25 code points. -/
example : (blankRanges.map fun r => r.2 + 1 - r.1).sum = 25 := by decide

/-! ## Trimming -/

/-- A text without the characters of the class at its end. -/
def trimEnd (drop : Char → Bool) (t : Text) : Text :=
  (t.reverse.dropWhile drop).reverse

/-- A text without the characters of the class at its two ends. -/
def trimBoth (drop : Char → Bool) (t : Text) : Text :=
  trimEnd drop (t.dropWhile drop)

/-- A text without blanks at its two ends. -/
def trim (t : Text) : Text :=
  trimBoth isBlank t

/-- A text without the byte order mark in front of it. -/
def withoutMark : Text → Text
  | '\uFEFF' :: t => t
  | t => t

end Text

end InstallAudit
