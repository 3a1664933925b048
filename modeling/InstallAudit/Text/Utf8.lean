import InstallAudit.Text.Blank

/-!
# The UTF-8 form of a text

* `encode` — the bytes of a text, one to four for each character.
* `decode?` — the text of a byte sequence, or nothing when the sequence is not well formed.

The decoder follows the table of well-formed sequences: a lead byte fixes the length of the
sequence and the range of its second byte, so that neither overlong forms, nor surrogates, nor
values above `U+10FFFF` are accepted.
-/

namespace InstallAudit

abbrev Bytes := List UInt8

namespace Text

/-! ## Encoding -/

/-- A continuation byte that carries the six low bits of `n`. -/
def continuation (n : Nat) : UInt8 :=
  UInt8.ofNat (0x80 + n % 0x40)

def encodeChar (c : Char) : Bytes :=
  let n := c.toNat
  if n < 0x80 then [UInt8.ofNat n]
  else if n < 0x800 then [UInt8.ofNat (0xC0 + n / 0x40), continuation n]
  else if n < 0x10000 then
    [UInt8.ofNat (0xE0 + n / 0x1000), continuation (n / 0x40), continuation n]
  else
    [UInt8.ofNat (0xF0 + n / 0x40000), continuation (n / 0x1000), continuation (n / 0x40),
     continuation n]

/-- The UTF-8 form of a text. -/
def encode (t : Text) : Bytes :=
  t.flatMap encodeChar

/-! ## Decoding -/

/-- Whether a byte lies between two bounds, both included. -/
def byteIn (lo hi : Nat) (b : UInt8) : Bool :=
  lo ≤ b.toNat && b.toNat ≤ hi

/-- The range that the second byte of a three byte sequence must lie in: the bounds shut out the
overlong forms behind `E0` and the surrogates behind `ED`. -/
def secondOfThree (lead : UInt8) : Nat × Nat :=
  if lead = 0xE0 then (0xA0, 0xBF) else if lead = 0xED then (0x80, 0x9F) else (0x80, 0xBF)

/-- The range that the second byte of a four byte sequence must lie in: the bounds shut out the
overlong forms behind `F0` and the values above `U+10FFFF` behind `F4`. -/
def secondOfFour (lead : UInt8) : Nat × Nat :=
  if lead = 0xF0 then (0x90, 0xBF) else if lead = 0xF4 then (0x80, 0x8F) else (0x80, 0xBF)

/-- The six bits that a continuation byte carries. -/
def payload (b : UInt8) : Nat :=
  b.toNat % 0x40

/-- The text of a well-formed byte sequence. -/
def decode? : Bytes → Option Text
  | [] => some []
  | a :: rest =>
    if a.toNat < 0x80 then (decode? rest).map (Char.ofNat a.toNat :: ·)
    else if byteIn 0xC2 0xDF a then
      match rest with
      | b :: rest =>
        if byteIn 0x80 0xBF b then
          (decode? rest).map (Char.ofNat (a.toNat % 0x20 * 0x40 + payload b) :: ·)
        else none
      | _ => none
    else if byteIn 0xE0 0xEF a then
      match rest with
      | b :: c :: rest =>
        if byteIn (secondOfThree a).1 (secondOfThree a).2 b && byteIn 0x80 0xBF c then
          (decode? rest).map
            (Char.ofNat (a.toNat % 0x10 * 0x1000 + payload b * 0x40 + payload c) :: ·)
        else none
      | _ => none
    else if byteIn 0xF0 0xF4 a then
      match rest with
      | b :: c :: d :: rest =>
        if byteIn (secondOfFour a).1 (secondOfFour a).2 b && byteIn 0x80 0xBF c
            && byteIn 0x80 0xBF d then
          (decode? rest).map
            (Char.ofNat (a.toNat % 0x08 * 0x40000 + payload b * 0x1000 + payload c * 0x40
              + payload d) :: ·)
        else none
      | _ => none
    else none

end Text

end InstallAudit
