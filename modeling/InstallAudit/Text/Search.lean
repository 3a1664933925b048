import InstallAudit.Text.Blank

/-!
# Searching in a text and folding its case

* `contains` — whether one text occurs inside another.
* `afterFirst?` — what follows the first occurrence of a text.
* `foldUpper`, `foldLower` — case folding of the letters `a` to `z` alone.
* `byteLength`, `splitAtByte?` — the length of the UTF-8 form, and places in it.
* `ofNat`, `ofInt` — decimal numerals.
-/

namespace InstallAudit

namespace Text

/-! ## Occurrences -/

/-- Whether `needle` occurs in the text.  The empty text occurs in every text. -/
def contains (needle : Text) : Text → Bool
  | [] => needle.isEmpty
  | c :: t => needle.isPrefixOf (c :: t) || contains needle t

/-- What follows the first occurrence of `needle` in the text. -/
def afterFirst? (needle : Text) : Text → Option Text
  | [] => needle.isPrefixOf? []
  | c :: t => (needle.isPrefixOf? (c :: t)).or (afterFirst? needle t)

/-- Whether the first character of the text is `c`. -/
def startsWith (c : Char) (t : Text) : Bool :=
  t.head? == some c

/-- Whether the last character of the text is `c`. -/
def endsWith (c : Char) (t : Text) : Bool :=
  t.getLast? == some c

/-! ## Case, length, numerals -/

/-- The letters `a` to `z` become capitals; every other character stays. -/
def foldUpper (t : Text) : Text :=
  t.map Char.toUpper

/-- The letters `A` to `Z` become small; every other character stays. -/
def foldLower (t : Text) : Text :=
  t.map Char.toLower

/-- The number of bytes of the UTF-8 form. -/
def byteLength : Text → Nat
  | [] => 0
  | c :: t => c.utf8Size + byteLength t

/-- The two parts of a text in front of and behind so many bytes of its UTF-8 form.  There are none
when the place lies inside a character or behind the end. -/
def splitAtByte? (n : Nat) : Text → Option (Text × Text)
  | [] => if n = 0 then some ([], []) else none
  | c :: t =>
    if n = 0 then some ([], c :: t)
    else if n < c.utf8Size then none
    else (splitAtByte? (n - c.utf8Size) t).map fun (front, rest) => (c :: front, rest)

/-- The decimal numeral of a natural number. -/
def ofNat (n : Nat) : Text :=
  Nat.toDigits 10 n

/-- The decimal numeral of an integer, with `-` in front of a negative one. -/
def ofInt : Int → Text
  | .ofNat n => ofNat n
  | .negSucc n => '-' :: ofNat (n + 1)

end Text

end InstallAudit
