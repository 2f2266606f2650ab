/-!
# Hexadecimal digits

* `Text.hexValue?`, `Text.hexNumber`: the value of a digit and of a row of digits;
* `Text.hexText`: a number with at least a given number of lower-case digits.
-/

namespace Typings
namespace Text

/-- The value of a hexadecimal digit. -/
def hexValue? (c : Char) : Option Nat :=
  if '0' ≤ c ∧ c ≤ '9' then some (c.toNat - '0'.toNat)
  else if 'a' ≤ c ∧ c ≤ 'f' then some (c.toNat - 'a'.toNat + 10)
  else if 'A' ≤ c ∧ c ≤ 'F' then some (c.toNat - 'A'.toNat + 10)
  else none

/-- The number that a row of digits writes; other characters count as zero. -/
def hexNumber (digits : List Char) : Nat :=
  digits.foldl (fun value c => value * 16 + (hexValue? c).getD 0) 0

/-- The hexadecimal digits of a value, at least `width` of them. -/
def hexText (width value : Nat) : List Char :=
  let digits := Nat.toDigits 16 value
  List.replicate (width - digits.length) '0' ++ digits

end Text
end Typings
