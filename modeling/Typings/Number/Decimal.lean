import Typings.Number.Binary64

/-!
# Decimal texts of numbers

* `Binary64.shortestDigits`: the fewest decimal digits that read back as the number, and of those
  the nearest to it;
* `Binary64.shortestText`: these digits laid out, positional for exponents from -4 to 15 and with
  at least one decimal, in exponent form with two exponent digits otherwise;
* `Binary64.sixPlaces`: the exact value rounded to six decimals, a tie going to the even digit.
-/

namespace Typings

/-- The decimal digits of a whole number. -/
def decimalDigits (value : Nat) : List Char :=
  Nat.toDigits 10 value

namespace Binary64

/-! ## Shortest digits -/

/-- The units nearest to `digits * 10 ^ exponent`. -/
def decimalUnits (digits : Nat) (exponent : Int) : Nat :=
  if 0 ≤ exponent then roundUnits (digits * Nat.pow 10 exponent.toNat * one) 1
  else roundUnits (digits * one) (Nat.pow 10 exponent.natAbs)

/-- The exponent `e` with `10 ^ (e - 1) ≤ units / one < 10 ^ e`, for positive units. -/
def decimalMagnitude (units : Nat) : Int :=
  (decimalDigits (units * Nat.pow 10 400 / one)).length - 400

/-- The neighbours of the value on the grid of multiples of `10 ^ exponent`, the nearer first and
the even one first when both are as near. -/
def gridNeighbours (units : Nat) (exponent : Int) : List Nat :=
  let numerator := if 0 ≤ exponent then units else units * Nat.pow 10 exponent.natAbs
  let denominator := if 0 ≤ exponent then one * Nat.pow 10 exponent.toNat else one
  let lower := numerator / denominator
  if divNearest numerator denominator = lower then [lower, lower + 1] else [lower + 1, lower]

/-- The digits of a value with `count` digits that read back as the value, with the exponent of
the last digit. -/
def digitsOfLength? (units count : Nat) : Option (Nat × Int) :=
  let exponent := decimalMagnitude units - count
  ((gridNeighbours units exponent).find? fun digits => decimalUnits digits exponent = units).map
    fun digits => (digits, exponent)

/-- The fewest digits that read back as the value, with the exponent of the last digit. The exact
expansion at the end always reads back; seventeen digits are enough for every number. -/
def shortestDigits (units : Nat) : Nat × Int :=
  ((List.range 17).findSome? fun count => digitsOfLength? units (count + 1)).getD
    (units * Nat.pow 5 1074, -1074)

/-! ## Layout -/

/-- Digits without the zeros at their end. -/
def trimZeros (digits : List Char) : List Char :=
  (digits.reverse.dropWhile (· == '0')).reverse

/-- A decimal exponent with its sign and at least two digits. -/
def exponentText (exponent : Int) : List Char :=
  let digits := decimalDigits exponent.natAbs
  (if exponent < 0 then '-' else '+') :: (if digits.length < 2 then '0' :: digits else digits)

/-- Lay out `0.digits * 10 ^ point`. -/
def layout (digits : List Char) (point : Int) : List Char :=
  if point < -3 ∨ 16 < point then
    let mantissa :=
      match digits with
      | first :: second :: rest => first :: '.' :: second :: rest
      | short => short
    mantissa ++ 'e' :: exponentText (point - 1)
  else if point ≤ 0 then
    '0' :: '.' :: (List.replicate point.natAbs '0' ++ digits)
  else
    let whole := digits.take point.toNat
    let fraction := digits.drop point.toNat
    whole ++ List.replicate (point.toNat - digits.length) '0' ++
      '.' :: (if fraction.isEmpty then ['0'] else fraction)

/-- The magnitude of a finite number in its shortest form. -/
def magnitudeText (units : Nat) : List Char :=
  if units = 0 then ['0', '.', '0']
  else
    let (digits, exponent) := shortestDigits units
    let written := decimalDigits digits
    layout (trimZeros written) (written.length + exponent)

def signText (negative : Bool) : List Char :=
  if negative then ['-'] else []

/-- The shortest text that reads back as the number. -/
def shortestText : Binary64 → String
  | .finite negative units _ => String.ofList (signText negative ++ magnitudeText units)
  | .infinite negative => if negative then "-inf" else "inf"
  | .notANumber => "nan"

/-- The number with six decimals. -/
def sixPlaces : Binary64 → String
  | .finite negative units _ =>
      let millionths := divNearest (units * 1000000) one
      let fraction := decimalDigits (millionths % 1000000)
      String.ofList (signText negative ++ decimalDigits (millionths / 1000000) ++
        '.' :: (List.replicate (6 - fraction.length) '0' ++ fraction))
  | .infinite negative => if negative then "-inf" else "inf"
  | .notANumber => "nan"

end Binary64
end Typings
