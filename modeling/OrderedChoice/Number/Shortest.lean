import OrderedChoice.Number.Binary64

/-!
# Shortest decimals

A number is written with the fewest digits that read back as the same number,
and of those with the digits nearest to it.  Numbers from a ten-thousandth up
to ten to the sixteenth are written positionally with at least one digit after
the point, all others with an exponent.
-/

namespace OrderedChoice.Binary64

/-! ## The digits -/

/--
The reals that round to a positive number, as multiples of a unit: the number
itself, and the ends of the interval, which belong to it when `closed`.
-/
structure RoundingInterval where
  value : Nat
  low : Nat
  high : Nat
  closed : Bool
  unitNumerator : Nat
  unitDenominator : Nat

/-- The interval of a number of magnitude `significand · 2 ^ exponent`, in
quarters of its last place.  Below a power of two the next number is only half
as far away. -/
def roundingInterval (significand : Nat) (exponent : Int) :
    RoundingInterval :=
  let narrow :=
    significand == Nat.pow 2 52 && decide (leastExponent < exponent)
  let (unitDenominator, unitNumerator) := scaleDown 1 1 (exponent - 2)
  { value := 4 * significand
    low := if narrow then 4 * significand - 1 else 4 * significand - 2
    high := 4 * significand + 2
    closed := significand % 2 == 0
    unitNumerator := unitNumerator
    unitDenominator := unitDenominator }

/-- Ten to an integer power, as numerator and denominator. -/
def powerOfTen (power : Int) : Nat × Nat :=
  match power with
  | .ofNat power => (Nat.pow 10 power, 1)
  | .negSucc power => (1, Nat.pow 10 (power + 1))

/-- The power of ten of the leading digit of a positive quotient. -/
def leadingPower (numerator denominator : Nat) : Int :=
  if denominator ≤ numerator then
    (Nat.toDigits 10 (numerator / denominator)).length - 1
  else
    let size := (Nat.toDigits 10 (denominator / numerator)).length
    if denominator = numerator * Nat.pow 10 (size - 1) then 1 - (size : Int)
    else -(size : Int)

/--
The digits on one decimal grid, if a point of the grid lies in the interval.
Only the neighbours of the number can be nearest; of two equally near ones the
upper is taken.
-/
def digitsOnGrid? (interval : RoundingInterval) (power : Int) : Option Nat :=
  let (gridNumerator, gridDenominator) := powerOfTen power
  let point := fun (digits : Nat) =>
    digits * gridNumerator * interval.unitDenominator
  let bound := fun (units : Nat) =>
    units * interval.unitNumerator * gridDenominator
  let inside := fun (digits : Nat) =>
    if interval.closed then
      decide (bound interval.low ≤ point digits) &&
        decide (point digits ≤ bound interval.high)
    else
      decide (bound interval.low < point digits) &&
        decide (point digits < bound interval.high)
  let value := bound interval.value
  let below := value / (gridNumerator * interval.unitDenominator)
  let above := below + 1
  match inside below, inside above with
  | true, true =>
    if value - point below < point above - value then some below
    else some above
  | true, false => some below
  | false, true => some above
  | false, false => none

/-- The first grid with a hit, from coarse to fine. -/
def firstGrid (interval : RoundingInterval) (leading : Int) :
    Nat → Nat → Nat × Int
  | 0, _ => (0, 0)
  | fuel + 1, count =>
    let power := leading - count
    match digitsOnGrid? interval power with
    | some digits => (digits, power)
    | none => firstGrid interval leading fuel (count + 1)

/-- The digits and the power of ten of the last of them, for a positive finite
number; seventeen digits always suffice. -/
def shortestDigits (number : Binary64) : Nat × Int :=
  let (significand, exponent) := number.parts
  let interval := roundingInterval significand exponent
  let leading :=
    leadingPower (interval.value * interval.unitNumerator)
      interval.unitDenominator
  firstGrid interval leading 18 0

/-! ## The text -/

/-- Digits without the zeros at their end, with the power of the last one
kept. -/
def dropZeros : Nat → List Char → Int → List Char × Int
  | 0, reversed, power => (reversed.reverse, power)
  | fuel + 1, reversed, power =>
    match reversed with
    | '0' :: reversed => dropZeros fuel reversed (power + 1)
    | reversed => (reversed.reverse, power)

/-- Digits with a point after the first `whole` of them; there is always a
digit on either side. -/
def positional (digits : List Char) (whole : Int) : List Char :=
  if whole ≤ 0 then
    ['0', '.'] ++ List.replicate (-whole).toNat '0' ++ digits
  else
    let whole := whole.toNat
    let padded := digits ++ List.replicate (whole - digits.length) '0'
    let fraction := padded.drop whole
    padded.take whole ++ ['.'] ++
      (if fraction.isEmpty then ['0'] else fraction)

/-- Digits with a point after the first one, and an exponent. -/
def scientific (digits : List Char) (exponent : Int) : List Char :=
  let significand :=
    match digits with
    | first :: second :: others => first :: '.' :: second :: others
    | digits => digits
  significand ++ ['e'] ++ (toString exponent).toList

/-- The text of a number without its sign. -/
def renderMagnitude (number : Binary64) : List Char :=
  if number.magnitude = 0 then ['0', '.', '0']
  else if number.magnitude = infinityBits then ['i', 'n', 'f']
  else if infinityBits < number.magnitude then ['N', 'a', 'N']
  else
    let (value, power) := number.shortestDigits
    let characters := Nat.toDigits 10 value
    let (digits, power) :=
      dropZeros characters.length characters.reverse power
    let exponent := power + digits.length - 1
    if -4 ≤ exponent && exponent < 16 then positional digits (exponent + 1)
    else scientific digits exponent

/-- The text of a number. -/
def render (number : Binary64) : String :=
  String.ofList <|
    if number.isNegative && decide (number.magnitude ≤ infinityBits) then
      '-' :: number.renderMagnitude
    else number.renderMagnitude

end OrderedChoice.Binary64
