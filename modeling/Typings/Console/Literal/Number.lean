import Typings.Json.Reader
import Typings.Text.Hexadecimal
import Typings.Text.Word

/-!
# Numbers in literal values

Numbers are written in decimal digits, with a fraction, an exponent or an imaginary mark, or in
hexadecimal, octal or binary digits behind a zero and a letter. Single underscores may stand between
digits.

* `Number.afterNumber`: the text behind a number at the front of a text;
* `Number.ofWriting`: what a written number is.
-/

namespace Typings
namespace Console
namespace Literal

inductive Number where
  | whole (value : Nat)
  /-- A whole number with too many decimal digits. -/
  | tooLong (digits : Nat)
  | real
  | imaginary
deriving DecidableEq, Repr

/-- Whether a character goes on with a name. All characters beyond ASCII do, also those that a name
must not hold. -/
def isNamePart (c : Char) : Bool :=
  0x80 ≤ c.toNat || Text.isWordPart c

/-- What was taken from the front of a text: the rest, or what is wrong. -/
abbrev Taken := Except String (List Char)

namespace Number

/-! ## Ends of numbers -/

/-- Whether a text starts with a keyword that may follow a number directly. The short ones may
go on like a name. -/
def startsWithJoinedKeyword (text : List Char) : Bool :=
  (["if", "in", "is"].any fun word => word.toList.isPrefixOf text) ||
    ["and", "else", "for", "or", "not"].any fun word =>
      word.toList.isPrefixOf text && !(text.drop word.length).head?.any isNamePart

/-- The text behind a number, which must not go on like a name. -/
def endNumber (kind : String) (rest : List Char) : Taken :=
  if startsWithJoinedKeyword rest then .ok rest
  else if rest.head?.any isNamePart then .error s!"invalid {kind} literal"
  else .ok rest

/-- The text behind digits that may have single underscores between them. -/
def afterDigits (isDigit : Char → Bool) (kind : String) : List Char → Taken
  | [] => .ok []
  | '_' :: rest =>
      if rest.head?.any isDigit then afterDigits isDigit kind rest
      else .error s!"invalid {kind} literal"
  | c :: rest => if isDigit c then afterDigits isDigit kind rest else .ok (c :: rest)

/-- What is wrong where a digit has to follow. -/
def missingDigit (kind : String) (rest : List Char) : String :=
  match rest.head?.filter Json.isDigit with
  | some c => s!"invalid digit '{c}' in {kind} literal"
  | none => s!"invalid {kind} literal"

/-- The text behind digits of a base. -/
def afterBaseDigits (isDigit : Char → Bool) (kind : String) : List Char → Taken
  | [] => .ok []
  | '_' :: rest =>
      if rest.head?.any isDigit then afterBaseDigits isDigit kind rest
      else .error (missingDigit kind rest)
  | c :: rest => if isDigit c then afterBaseDigits isDigit kind rest else .ok (c :: rest)

/-- The text behind a number with a letter for its base, taken from the digits on. -/
def afterBase (isDigit : Char → Bool) (kind : String) (text : List Char) : Taken := do
  let digits := if text.head? = some '_' then text.drop 1 else text
  if !digits.head?.any isDigit then throw (missingDigit kind digits)
  let rest ← afterBaseDigits isDigit kind digits
  if rest.head?.any Json.isDigit then throw (missingDigit kind rest)
  endNumber kind rest

/-- The text behind an imaginary mark or the end of a decimal number. -/
def afterMark (rest : List Char) : Taken :=
  match rest with
  | 'j' :: rest | 'J' :: rest => endNumber "imaginary" rest
  | _ => endNumber "decimal" rest

/-- The text behind an exponent, when there is one. -/
def afterExponent (text : List Char) : Taken :=
  match text with
  | mark :: rest =>
      if mark = 'e' || mark = 'E' then
        match rest with
        | sign :: digits =>
            if sign = '+' || sign = '-' then
              if digits.head?.any Json.isDigit then
                afterDigits Json.isDigit "decimal" digits >>= afterMark
              else .error "invalid decimal literal"
            else if Json.isDigit sign then
              afterDigits Json.isDigit "decimal" rest >>= afterMark
            else endNumber "decimal" text
        | [] => endNumber "decimal" text
      else afterMark text
  | [] => .ok []

/-- The text behind the fraction of a number, taken from the point on. -/
def afterFraction (text : List Char) : Taken :=
  if (text.drop 1).head?.any Json.isDigit then
    afterDigits Json.isDigit "decimal" (text.drop 1) >>= afterExponent
  else afterExponent (text.drop 1)

/-- The text behind whole digits without a fraction. Zeros do not stand in front of others. -/
def afterWhole (digits rest : List Char) : Taken :=
  if digits.head? = some '0' && digits.any fun c => c ≠ '0' && c ≠ '_' then
    .error ("leading zeros in decimal integer literals are not permitted; " ++
      "use an 0o prefix for octal integers")
  else endNumber "decimal" rest

/-- The text behind a number that starts with a decimal digit. -/
def afterDecimal (text : List Char) : Taken := do
  let rest ← afterDigits Json.isDigit "decimal" text
  let digits := text.take (text.length - rest.length)
  match rest with
  | '.' :: _ => afterFraction rest
  | c :: _ =>
      if c = 'e' || c = 'E' || c = 'j' || c = 'J' then afterExponent rest
      else afterWhole digits rest
  | [] => afterWhole digits rest

def isOctalDigit (c : Char) : Bool :=
  '0' ≤ c && c ≤ '7'

def isBinaryDigit (c : Char) : Bool :=
  c = '0' || c = '1'

def isHexDigit (c : Char) : Bool :=
  (Text.hexValue? c).isSome

/-- The text behind a number at the front of a text. -/
def afterNumber (text : List Char) : Taken :=
  match text with
  | '0' :: letter :: rest =>
      if letter = 'x' || letter = 'X' then afterBase isHexDigit "hexadecimal" rest
      else if letter = 'o' || letter = 'O' then afterBase isOctalDigit "octal" rest
      else if letter = 'b' || letter = 'B' then afterBase isBinaryDigit "binary" rest
      else afterDecimal text
  | '.' :: _ => afterFraction text
  | _ => afterDecimal text

/-! ## Values -/

/-- The number that digits of a base write; underscores do not count. -/
def baseValue (base : Nat) (digits : List Char) : Nat :=
  (digits.filterMap Text.hexValue?).foldl (fun value digit => value * base + digit) 0

/-- The number in decimal digits and other marks. -/
def ofDecimalWriting (writing : List Char) : Number :=
  if writing.any fun c => c = 'j' || c = 'J' then .imaginary
  else if writing.any fun c => c = '.' || c = 'e' || c = 'E' then .real
  else
    let digits := (writing.filter Json.isDigit).dropWhile (· = '0')
    if Json.maxDigits < digits.length then .tooLong digits.length
    else .whole (Json.digitsValue digits)

/-- The number that a correct writing writes. -/
def ofWriting (writing : List Char) : Number :=
  match writing with
  | '0' :: letter :: digits =>
      if letter = 'x' || letter = 'X' then .whole (baseValue 16 digits)
      else if letter = 'o' || letter = 'O' then .whole (baseValue 8 digits)
      else if letter = 'b' || letter = 'B' then .whole (baseValue 2 digits)
      else ofDecimalWriting writing
  | _ => ofDecimalWriting writing

end Number
end Literal
end Console
end Typings
