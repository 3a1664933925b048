import InstallAudit.Text.Search
import InstallAudit.Text.Shown

/-!
# Quoted texts

Two styles of writing a text between quotes.

* `quoted` — for messages: characters that would not show are written as code points.
* `jsonQuoted` — the strings of JSON, where only control characters have to be escaped.
-/

namespace InstallAudit

namespace Text

/-- The hexadecimal numeral of a natural number, in small letters. -/
def hex (n : Nat) : Text :=
  Nat.toDigits 16 n

/-! ## For messages -/

/-- One character inside quotes. -/
def quotedChar (c : Char) : Text :=
  if c = '\x00' then "\\0".toList
  else if c = '\t' then "\\t".toList
  else if c = '\r' then "\\r".toList
  else if c = '\n' then "\\n".toList
  else if c = '\\' then "\\\\".toList
  else if c = '"' then "\\\"".toList
  else if shows c then [c]
  else "\\u\x7b".toList ++ hex c.toNat ++ ['\x7d']

/-- A text between quotes, with the characters that would not show as code points. -/
def quoted (t : Text) : Text :=
  '"' :: t.flatMap quotedChar ++ ['"']

/-! ## For JSON -/

/-- One character of a JSON string. -/
def jsonChar (c : Char) : Text :=
  if c = '"' then "\\\"".toList
  else if c = '\\' then "\\\\".toList
  else if c = '\x08' then "\\b".toList
  else if c = '\t' then "\\t".toList
  else if c = '\n' then "\\n".toList
  else if c = '\x0C' then "\\f".toList
  else if c = '\r' then "\\r".toList
  else if c.toNat < 0x20 then
    "\\u00".toList ++ [Nat.digitChar (c.toNat / 16), Nat.digitChar (c.toNat % 16)]
  else [c]

/-- A text as a JSON string. -/
def jsonQuoted (t : Text) : Text :=
  '"' :: t.flatMap jsonChar ++ ['"']

end Text

end InstallAudit
