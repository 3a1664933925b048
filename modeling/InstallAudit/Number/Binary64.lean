import InstallAudit.Text.Search

/-!
# Binary floating point numbers in decimal

Documents may hold numbers with a fraction.  They are kept in the binary64 format, exactly, as a
significand and a power of two.

* `Binary64.ofDecimal` — the binary64 number nearest to a decimal, ties to the even significand.
* `Binary64.product`, `Binary64.quotient` — products and quotients, rounded the same way.
* `Binary64.shortest` — the shortest decimal that is read back as the same number; among those of
  equal length, one nearest to it.
* `Binary64.positional`, `Binary64.compact` — two ways of writing that decimal.
-/

namespace InstallAudit

/-- A number of the binary64 format. -/
inductive Binary64 where
  | nan
  | infinite (negative : Bool)
  /-- The number `significand * 2 ^ exponent`, with a sign. -/
  | finite (negative : Bool) (significand : Nat) (exponent : Int)
  deriving DecidableEq, Inhabited

namespace Binary64

/-! ## Reading a decimal -/

/-- The smallest exponent of a significand. -/
def minExponent : Int := -1074

/-- The largest exponent of a significand. -/
def maxExponent : Int := 971

/-- The first natural number that is no significand. -/
def significandBound : Nat := 0x20000000000000

/-- The quotient rounded to the nearest natural number, a tie to the even one. -/
def roundQuotient (num den : Nat) : Nat :=
  let q := num / den
  let twice := 2 * (num % den)
  if twice < den then q
  else if den < twice then q + 1
  else q + q % 2

/-- A power with a natural exponent, one for a negative exponent. -/
def powNonneg (base : Nat) (e : Int) : Nat :=
  base.pow e.toNat

/-- The number nearest to the fraction `num / den`, both positive. -/
def ofFraction (negative : Bool) (num den : Nat) : Binary64 :=
  let guess := max minExponent ((Nat.log2 num : Int) - (Nat.log2 den : Int) - 53)
  let quotient (e : Int) := roundQuotient (num * powNonneg 2 (-e)) (den * powNonneg 2 e)
  let fits := num * powNonneg 2 (-guess) < significandBound * (den * powNonneg 2 guess)
  let exponent := if fits then guess else guess + 1
  let m := quotient exponent
  let (m, exponent) := if m = significandBound then (m / 2, exponent + 1) else (m, exponent)
  if maxExponent < exponent then .infinite negative else .finite negative m exponent

/-- The number nearest to `digits * 10 ^ scale`.  Decimals far outside the range of the format are
decided by their size alone. -/
def ofDecimal (negative : Bool) (digits : Nat) (scale : Int) : Binary64 :=
  let size := (Nat.toDigits 10 digits).length + scale
  if digits = 0 ∨ size < -400 then .finite negative 0 minExponent
  else if 400 < size then .infinite negative
  else ofFraction negative (digits * powNonneg 10 scale) (powNonneg 10 (-scale))

/-! ## Products and quotients -/

/-- The number nearest to `num / den * 2 ^ exponent`, for a positive `den`. -/
def ofScaled (negative : Bool) (num den : Nat) (exponent : Int) : Binary64 :=
  if num = 0 then .finite negative 0 minExponent
  else ofFraction negative (num * powNonneg 2 exponent) (den * powNonneg 2 (-exponent))

/-- The product of two numbers, rounded. -/
def product : Binary64 → Binary64 → Binary64
  | finite s m e, finite s' m' e' => ofScaled (s != s') (m * m') 1 (e + e')
  | finite s m _, infinite s' => if m = 0 then nan else infinite (s != s')
  | infinite s, finite s' m' _ => if m' = 0 then nan else infinite (s != s')
  | infinite s, infinite s' => infinite (s != s')
  | nan, _ => nan
  | _, nan => nan

/-- The quotient of two numbers, rounded. -/
def quotient : Binary64 → Binary64 → Binary64
  | finite s m e, finite s' m' e' =>
    if m' = 0 then if m = 0 then nan else infinite (s != s')
    else ofScaled (s != s') m m' (e - e')
  | finite s _ _, infinite s' => .finite (s != s') 0 minExponent
  | infinite s, finite s' _ _ => infinite (s != s')
  | infinite _, infinite _ => nan
  | nan, _ => nan
  | _, nan => nan

/-! ## The shortest decimal -/

/-- Four times the ends of the interval of the reals that are read as `m * 2 ^ exponent`, in units
of `2 ^ exponent`.  Below a power of two the gap is half as wide. -/
def interval (m : Nat) (exponent : Int) : Nat × Nat :=
  (if 2 * m = significandBound ∧ minExponent < exponent then 4 * m - 1 else 4 * m - 2, 4 * m + 2)

/-- Which of two neighbours is taken when a number lies in the middle between them. -/
inductive Tie where
  | up
  | even
  deriving DecidableEq

/-- Whether the lower one of two neighbours is taken. -/
def Tie.lower (tie : Tie) (below : Nat) : Bool :=
  tie = .even && below % 2 = 0

/-- The multiple of `10 ^ scale` nearest to `m * 2 ^ exponent` that is read as that number, if
there is one. -/
def onGrid? (tie : Tie) (m : Nat) (exponent scale : Int) : Option Nat :=
  let unit := powNonneg 10 scale * powNonneg 2 (2 - exponent)
  let per := powNonneg 10 (-scale) * powNonneg 2 (exponent - 2)
  let (lo, hi) := interval m exponent
  let inside (x : Nat) :=
    if m % 2 = 0 then lo * per ≤ x * unit && x * unit ≤ hi * per
    else lo * per < x * unit && x * unit < hi * per
  let below := 4 * m * per / unit
  let twice := 2 * (4 * m * per % unit)
  let down := twice < unit || (twice = unit && tie.lower below)
  let nearer := if down then [below, below + 1] else [below + 1, below]
  nearer.find? inside

/-- Try ever finer grids, so many of them. -/
def search (tie : Tie) (m : Nat) (exponent : Int) : Nat → Int → Nat × Int
  | 0, scale => (m, scale)
  | n + 1, scale =>
    match onGrid? tie m exponent scale with
    | some x => (x, scale)
    | none => search tie m exponent n (scale - 1)

/-- Digits and scale of the shortest decimal that is read back as `m * 2 ^ exponent`. -/
def shortest (tie : Tie) (m : Nat) (exponent : Int) : Nat × Int :=
  if m = 0 then (0, 0)
  else search tie m exponent 25 (((Nat.log2 m : Int) + exponent) * 30103 / 100000 + 1)

/-! ## Writing -/

def zeros (n : Nat) : Text :=
  List.replicate n '0'

def signed (negative : Bool) (t : Text) : Text :=
  if negative then '-' :: t else t

/-- The digits with the decimal point after `point` of them, and always a digit on both sides of
the point. -/
def placed (digits : Text) (point : Int) : Text :=
  if point ≤ 0 then "0.".toList ++ zeros (-point).toNat ++ digits
  else if digits.length ≤ point.toNat then
    digits ++ zeros (point.toNat - digits.length) ++ ".0".toList
  else digits.take point.toNat ++ '.' :: digits.drop point.toNat

/-- The digits of the shortest decimal and the place of its point; the last digit is not zero
unless it is the only one. -/
def decimal (tie : Tie) (m : Nat) (exponent : Int) : Text × Int :=
  let (digits, scale) := shortest tie m exponent
  let all := Text.ofNat digits
  let kept := Text.trimEnd (· == '0') all
  (if kept.isEmpty then ['0'] else kept, all.length + scale)

/-- An exponent, always with its sign. -/
def exponentPart (e : Int) : Text :=
  if e < 0 then Text.ofInt e else '+' :: Text.ofInt e

/-- The number without an exponent, however long it gets.  A tie goes up. -/
def positional : Binary64 → Text
  | nan => "NaN".toList
  | infinite negative => signed negative "inf".toList
  | finite negative m exponent =>
    let (digits, point) := decimal .up m exponent
    signed negative (placed digits point)

/-- The number with an exponent when the point would stand more than 16 places behind the first
digit or more than 5 places in front of it.  A tie goes to the even digit. -/
def compact : Binary64 → Text
  | nan => "NaN".toList
  | infinite negative => signed negative "inf".toList
  | finite negative m exponent =>
    let (digits, point) := decimal .even m exponent
    signed negative <|
      if -5 < point ∧ point ≤ 16 then placed digits point
      else
        let fraction := if digits.length ≤ 1 then [] else '.' :: digits.drop 1
        digits.take 1 ++ fraction ++ 'e' :: exponentPart (point - 1)

example : (ofDecimal false 15 (-1)).positional = "1.5".toList := by decide +kernel
example : (ofDecimal true 1 3).positional = "-1000.0".toList := by decide +kernel
example : (ofDecimal false 1 (-1)).positional = "0.1".toList := by decide +kernel
example : (ofDecimal false 1 100).compact = "1e+100".toList := by decide +kernel
example : (ofDecimal false 96686948086685925 (-2)).positional = "966869480866859.3".toList := by
  decide +kernel
example : (ofDecimal false 96686948086685925 (-2)).compact = "966869480866859.2".toList := by
  decide +kernel

end Binary64

end InstallAudit
