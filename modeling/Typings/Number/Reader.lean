import Typings.Number.Binary64
import Typings.Json.Reader
import Typings.Text.Blank

/-!
# Numbers in settings

A number in a setting may have blanks around it, a sign, and underscores between its digits.

* `integerOfText`: a whole number, also with a fraction of zeros;
* `numberOfText?`: a decimal number, an infinity or `nan`.
-/

namespace Typings
namespace NumberText

/-! ## Parts of a number -/

/-- Blanks that may stand around a number: all but the four information separators. -/
def isMargin (c : Char) : Bool :=
  Text.isBlank c && !(0x1C ≤ c.toNat && c.toNat ≤ 0x1F)

/-- A text without the blanks around it. -/
def withoutMargins (text : List Char) : List Char :=
  ((text.dropWhile isMargin).reverse.dropWhile isMargin).reverse

/-- A sign, negative or not, and what follows it. -/
def takeSign : List Char → Bool × List Char
  | '-' :: rest => (true, rest)
  | '+' :: rest => (false, rest)
  | text => (false, text)

/-- Whether a text is a non-empty row of digits. -/
def isDigits (text : List Char) : Bool :=
  !text.isEmpty && text.all Json.isDigit

/-- A text without its underscores, when each stands alone between other characters. -/
def withoutUnderscores? (text : List Char) : Option (List Char) :=
  let pieces := text.splitOn '_'
  if pieces.all (!·.isEmpty) then some pieces.flatten else none

/-! ## Whole numbers -/

/-- Why a text writes no whole number. -/
inductive IntegerFault where
  | malformed
  | tooManyDigits
deriving DecidableEq, Repr

/-- A text without a fraction of zeros at its end. -/
def withoutZeroFraction (text : List Char) : List Char :=
  match text.dropWhile (· != '.') with
  | _ :: zeros =>
      if !zeros.isEmpty && zeros.all (· == '0') then text.takeWhile (· != '.') else text
  | [] => text

/-- A number without sign, less the zeros and underscores at its front. They may also stand before
a minus sign, and before nothing else than a sign or a digit. Of zeros alone the last character is
left. -/
def withoutLeadingZeros? (row : List Char) : Option (List Char) :=
  let startsNumber (c : Char) : Bool := Json.isDigit c || c = '-'
  match row.head? with
  | some '0' =>
      match row.dropWhile fun c => c = '0' || c = '_' with
      | [] => some (row.drop (row.length - 1))
      | c :: rest => if startsNumber c then some (c :: rest) else none
  | some c => if startsNumber c then some row else none
  | none => none

/-- A number with its minus sign, less the zeros behind the sign. A plus sign stands before no minus
sign. -/
def withoutPadding? (text : List Char) : Option (List Char) :=
  match text with
  | '-' :: row => (withoutLeadingZeros? row).map ('-' :: ·)
  | '+' :: '-' :: _ => none
  | '+' :: row => withoutLeadingZeros? row
  | row => withoutLeadingZeros? row

/-- The whole number that a minus sign and digits write. A zero stands alone, and the sign counts
among the digits. -/
def readInteger (text : List Char) : Except IntegerFault Int :=
  let (negative, row) := takeSign text
  let digits := row.takeWhile Json.isDigit
  if digits.isEmpty || (digits.head? = some '0' && digits.length ≠ 1) then .error .malformed
  else if Json.maxDigits < text.length - row.length + digits.length then .error .tooManyDigits
  else if digits.length ≠ row.length then .error .malformed
  else
    let size : Int := Json.digitsValue digits
    .ok (if negative then -size else size)

/-- The whole number that a text writes. -/
def integerOfText (text : String) : Except IntegerFault Int :=
  match withoutPadding? (withoutZeroFraction (withoutMargins text.toList)) with
  | none => .error .malformed
  | some padded => readInteger ((withoutUnderscores? padded).getD padded)

/-! ## Decimal numbers -/

/-- The exponent behind the mark of one, or no exponent at all. -/
def exponentOf? : List Char → Option Int
  | [] => some 0
  | _ :: text =>
      let (negative, digits) := takeSign text
      if isDigits digits then
        let size : Int := Json.digitsValue digits
        some (if negative then -size else size)
      else none

/-- The words for numbers that no digits write. -/
def wordOf? (negative : Bool) (text : List Char) : Option Binary64 :=
  let word := String.ofList (text.map Char.toLower)
  if word = "inf" ∨ word = "infinity" then some (.infinite negative)
  else if word = "nan" then some .notANumber
  else none

/-- A number without sign written in digits, with some on at least one side of the point. -/
def decimalOf? (negative : Bool) (text : List Char) : Option Binary64 := do
  let isMark (c : Char) : Bool := c = 'e' || c = 'E'
  let mantissa := text.takeWhile (!isMark ·)
  let exponent ← exponentOf? (text.dropWhile (!isMark ·))
  let whole := mantissa.takeWhile (· != '.')
  let fraction := (mantissa.dropWhile (· != '.')).drop 1
  if isDigits (whole ++ fraction) then
    some (.ofDecimal negative (Json.digitsValue (whole ++ fraction))
      (exponent - fraction.length))
  else none

/-- A number without blanks and underscores. -/
def plainNumber? (text : List Char) : Option Binary64 :=
  let (negative, unsigned) := takeSign text
  (wordOf? negative unsigned).or (decimalOf? negative unsigned)

/-- The number that a text writes. Blanks and underscores do not go together. -/
def numberOfText? (text : String) : Option Binary64 :=
  (plainNumber? (withoutMargins text.toList)).or
    ((withoutUnderscores? text.toList).bind plainNumber?)

end NumberText
end Typings
