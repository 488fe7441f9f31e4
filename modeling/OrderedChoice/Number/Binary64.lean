/-!
# Binary64 numbers

Double precision numbers by their bits, and the number nearest to a decimal.
Rounding is exact: the decimal is a quotient of natural numbers, and halves go
to the even neighbour.
-/

namespace OrderedChoice

/-- A double precision number, given by its bits. -/
structure Binary64 where
  bits : UInt64
deriving DecidableEq, Repr

/-- A decimal: a sign, digits as a number, and a power of ten. -/
structure Decimal where
  negative : Bool
  digits : Nat
  exponent : Int
deriving DecidableEq, Repr

/-! ## Reading decimals -/

namespace Decimal

/-- The value of a digit character. -/
def digitValue (character : Char) : Nat := character.toNat - '0'.toNat

/-- The number that digit characters spell. -/
def ofDigits (characters : List Char) : Nat :=
  characters.foldl (fun value digit => value * 10 + digitValue digit) 0

/-- Split digits from what follows them. -/
def splitDigits (text : List Char) : List Char × List Char :=
  (text.takeWhile Char.isDigit, text.dropWhile Char.isDigit)

/-- Read the exponent that ends a number, if there is one. -/
def readExponent? : List Char → Option Int
  | [] => some 0
  | mark :: text =>
    if mark = 'e' || mark = 'E' then
      let (negative, text) :=
        match text with
        | '-' :: text => (true, text)
        | '+' :: text => (false, text)
        | text => (false, text)
      if text.isEmpty || !text.all Char.isDigit then none
      else
        let size : Int := ofDigits text
        some (if negative then -size else size)
    else none

/-- Read a number: digits with an optional sign, fraction and exponent. -/
def read? (text : List Char) : Option Decimal :=
  let (negative, text) :=
    match text with
    | '-' :: text => (true, text)
    | text => (false, text)
  let (whole, text) := splitDigits text
  let (fraction, text) :=
    match text with
    | '.' :: text => splitDigits text
    | text => ([], text)
  if whole.isEmpty && fraction.isEmpty then none
  else
    (readExponent? text).map fun exponent =>
      ⟨negative, ofDigits (whole ++ fraction), exponent - fraction.length⟩

end Decimal

/-! ## Rounding -/

namespace Binary64

/-- A quotient rounded to a natural number, halves to the even neighbour. -/
def roundQuotient (numerator denominator : Nat) : Nat :=
  let whole := numerator / denominator
  let twiceRest := 2 * (numerator % denominator)
  if denominator < twiceRest then whole + 1
  else if twiceRest = denominator then whole + whole % 2
  else whole

/-- A quotient divided by a power of two, as a quotient. -/
def scaleDown (numerator denominator : Nat) (power : Int) : Nat × Nat :=
  match power with
  | .ofNat power => (numerator, denominator * Nat.pow 2 power)
  | .negSucc power => (numerator * Nat.pow 2 (power + 1), denominator)

/-- The least exponent of the last binary place. -/
def leastExponent : Int := -1074

/-- The exponent of the last binary place that keeps 53 places of a positive
quotient, or fewer where that would fall below the least exponent. -/
def lastPlace (numerator denominator : Nat) : Int :=
  let guess : Int := (numerator.log2 : Int) - denominator.log2 - 53
  let (scaled, unit) := scaleDown numerator denominator guess
  let exact := if scaled / unit < Nat.pow 2 53 then guess else guess + 1
  max exact leastExponent

/-- The bits of infinity. -/
def infinityBits : Nat := 0x7FF0000000000000

/-- The bits without sign of the number nearest to a positive quotient. -/
def magnitudeBits (numerator denominator : Nat) : Nat :=
  let place := lastPlace numerator denominator
  let (scaled, unit) := scaleDown numerator denominator place
  let significand := roundQuotient scaled unit
  min ((place - leastExponent).toNat * Nat.pow 2 52 + significand) infinityBits

/-- The number with the given sign and the given bits without sign. -/
def ofMagnitude (negative : Bool) (magnitude : Nat) : Binary64 :=
  ⟨UInt64.ofNat (if negative then Nat.pow 2 63 + magnitude else magnitude)⟩

/-- The number nearest to a decimal; too large ones give infinity.  Decimals
far out of range are decided by their number of digits. -/
def ofDecimal (decimal : Decimal) : Binary64 :=
  let size : Int := (Nat.toDigits 10 decimal.digits).length
  ofMagnitude decimal.negative <|
    if decimal.digits = 0 then 0
    else if 310 < size + decimal.exponent then infinityBits
    else if size + decimal.exponent < -330 then 0
    else
      match decimal.exponent with
      | .ofNat exponent => magnitudeBits (decimal.digits * Nat.pow 10 exponent) 1
      | .negSucc exponent =>
        magnitudeBits decimal.digits (Nat.pow 10 (exponent + 1))

/-- Read a number in decimal notation. -/
def read? (text : String) : Option Binary64 :=
  (Decimal.read? text.toList).map ofDecimal

/-! ## Parts -/

/-- Whether the sign bit is set. -/
def isNegative (number : Binary64) : Bool :=
  decide (Nat.pow 2 63 ≤ number.bits.toNat)

/-- The bits without the sign. -/
def magnitude (number : Binary64) : Nat := number.bits.toNat % Nat.pow 2 63

/-- The significand and the exponent of its last place: a finite number of
magnitude `m · 2 ^ q`. -/
def parts (number : Binary64) : Nat × Int :=
  let exponent : Nat := number.magnitude / Nat.pow 2 52
  let fraction : Nat := number.magnitude % Nat.pow 2 52
  if exponent = 0 then (fraction, leastExponent)
  else (Nat.pow 2 52 + fraction, (exponent : Int) - 1 + leastExponent)

end Binary64

end OrderedChoice
