import Typings.Json.Value
import Typings.Table
import Typings.Text.Surrogate

/-!
# Reading JSON text

* `Json.Fault`: what can be wrong with a text; the place is the rest of the text from the fault
  on, and `Json.SyntaxError` gives it as a line and a column;
* `Json.Excess`: the limits on the digits of a whole number and on the nesting of values;
* `readString`, `readNumber?`, `readValue`: each takes what it reads from the front of the text
  and returns what is left;
* `Json.parse`: a whole text as one value.

A repeated key keeps its first place and takes its last value. `NaN`, `Infinity` and `-Infinity`
are numbers. A number without fraction and exponent is a whole number.
-/

namespace Typings
namespace Json

/-! ## Faults -/

inductive Fault where
  | valueExpected
  | nameExpected
  | colonExpected
  | commaExpected
  | textAfterValue
  | unterminatedString
  | controlCharacter
  | badEscape
  | badUnicodeEscape
  | byteOrderMark
deriving DecidableEq, Repr

def Fault.message : Fault → String
  | .valueExpected => "Expecting value"
  | .nameExpected => "Expecting property name enclosed in double quotes"
  | .colonExpected => "Expecting ':' delimiter"
  | .commaExpected => "Expecting ',' delimiter"
  | .textAfterValue => "Extra data"
  | .unterminatedString => "Unterminated string starting at"
  | .controlCharacter => "Invalid control character at"
  | .badEscape => "Invalid \\escape"
  | .badUnicodeEscape => "Invalid \\uXXXX escape"
  | .byteOrderMark => "Unexpected UTF-8 BOM (decode using utf-8-sig)"

/-! ## Limits -/

/-- The greatest number of digits of a whole number. -/
def maxDigits : Nat := 4300

/-- The greatest number of values that stand inside each other. -/
def maxNesting : Nat := 985

/-- The kinds of values that hold others. -/
inductive Container where
  | array
  | object
deriving DecidableEq, Repr

def Container.word : Container → String
  | .array => "array"
  | .object => "object"

/-- A limit that a text exceeds. -/
inductive Excess where
  | digits (count : Nat)
  | nesting (container : Container)
deriving DecidableEq, Repr

def Excess.message : Excess → String
  | .digits count =>
      s!"Exceeds the limit ({maxDigits} digits) for integer string conversion: " ++
        s!"value has {count} digits; use sys.set_int_max_str_digits() to increase the limit"
  | .nesting container =>
      s!"maximum recursion depth exceeded while decoding a JSON {container.word} " ++
        "from a unicode string"

/-! ## Failures -/

inductive Failure where
  /-- A fault with the text from its place on. -/
  | fault (fault : Fault) (rest : List Char)
  | excess (excess : Excess)
deriving DecidableEq, Repr

/-- What was read together with the rest of the text, or a failure. -/
abbrev Reading (α : Type) := Except Failure (α × List Char)

/-! ## Characters -/

/-- The blanks that may stand between the parts of a text. -/
def isGap (c : Char) : Bool :=
  c = ' ' || c = '\t' || c = '\n' || c = '\r'

def skipGap (text : List Char) : List Char :=
  text.dropWhile isGap

/-- The number that four hexadecimal digits write. -/
def hexUnit? (a b c d : Char) : Option Nat := do
  let a ← Text.hexValue? a
  let b ← Text.hexValue? b
  let c ← Text.hexValue? c
  let d ← Text.hexValue? d
  return ((a * 16 + b) * 16 + c) * 16 + d

def isLeadingSurrogate (unit : Nat) : Bool :=
  0xD800 ≤ unit && unit < 0xDC00

def isTrailingSurrogate (unit : Nat) : Bool :=
  0xDC00 ≤ unit && unit < 0xE000

/-- The character beyond U+FFFF that two surrogates write together, as a text holds it. -/
def joinSurrogates (leading trailing : Nat) : List Char :=
  Surrogate.held (Char.ofNat (0x10000 + (leading - 0xD800) * 0x400 + (trailing - 0xDC00)))

/-- The character of a single code unit; a surrogate without its partner has a stand-in. -/
def unitCharacter (unit : Nat) : Char :=
  if Surrogate.isCode unit then Surrogate.standIn unit else Char.ofNat unit

/-- The character that a backslash and one letter stand for. -/
def shortEscape? : Char → Option Char
  | '"' => some '"'
  | '\\' => some '\\'
  | '/' => some '/'
  | 'b' => some '\x08'
  | 'f' => some '\x0C'
  | 'n' => some '\n'
  | 'r' => some '\r'
  | 't' => some '\t'
  | _ => none

/-! ## Strings -/

def consUnit (unit : Nat) : Reading (List Nat) → Reading (List Nat)
  | .ok (units, rest) => .ok (unit :: units, rest)
  | .error failure => .error failure

/-- Read the code units of a string up to its closing quote. `opening` is the text from the
opening quote on, the place of a string that never ends. Four digits at the very end of the text
do not make an escape: something has to follow them. -/
def readUnits (opening : List Char) : List Char → Reading (List Nat)
  | [] => .error (.fault .unterminatedString opening)
  | '"' :: rest => .ok ([], rest)
  | ['\\'] => .error (.fault .unterminatedString opening)
  | '\\' :: 'u' :: a :: b :: c :: d :: rest =>
      if rest.isEmpty then .error (.fault .badUnicodeEscape ('u' :: a :: b :: c :: d :: rest))
      else
        match hexUnit? a b c d with
        | some unit => consUnit unit (readUnits opening rest)
        | none => .error (.fault .badUnicodeEscape ('u' :: a :: b :: c :: d :: rest))
  | '\\' :: 'u' :: rest => .error (.fault .badUnicodeEscape ('u' :: rest))
  | '\\' :: letter :: rest =>
      match shortEscape? letter with
      | some c => consUnit c.toNat (readUnits opening rest)
      | none => .error (.fault .badEscape ('\\' :: letter :: rest))
  | c :: rest =>
      if c < ' ' then .error (.fault .controlCharacter (c :: rest))
      else consUnit c.toNat (readUnits opening rest)

/-- The characters that code units write: two surrogates in a row are one character. -/
def joinUnits : List Nat → List Char
  | [] => []
  | [unit] => [unitCharacter unit]
  | unit :: next :: rest =>
      if isLeadingSurrogate unit && isTrailingSurrogate next then
        joinSurrogates unit next ++ joinUnits rest
      else
        unitCharacter unit :: joinUnits (next :: rest)

/-- Read a string whose opening quote is already taken. -/
def readString (opening text : List Char) : Reading String :=
  match readUnits opening text with
  | .ok (units, rest) => .ok (String.ofList (joinUnits units), rest)
  | .error failure => .error failure

/-! ## Numbers -/

def isDigit (c : Char) : Bool :=
  '0' ≤ c && c ≤ '9'

/-- The number that decimal digits write. -/
def digitsValue (digits : List Char) : Nat :=
  digits.foldl (fun value c => value * 10 + (c.toNat - '0'.toNat)) 0

/-- A whole part: a lone zero, or digits that do not start with one. -/
def readWhole? : List Char → Option (List Char × List Char)
  | '0' :: rest => some (['0'], rest)
  | c :: rest =>
      if isDigit c then some (c :: rest.takeWhile isDigit, rest.dropWhile isDigit) else none
  | [] => none

/-- The digits after a point, when the point has some. -/
def readFraction : List Char → List Char × List Char
  | '.' :: rest =>
      if (rest.takeWhile isDigit).isEmpty then ([], '.' :: rest)
      else (rest.takeWhile isDigit, rest.dropWhile isDigit)
  | text => ([], text)

/-- An exponent with digits, when there is one. -/
def readExponent? (text : List Char) : Option (Int × List Char) :=
  match text with
  | mark :: rest =>
      if mark = 'e' ∨ mark = 'E' then
        let (negative, rest) :=
          match rest with
          | '-' :: rest => (true, rest)
          | '+' :: rest => (false, rest)
          | rest => (false, rest)
        let digits := rest.takeWhile isDigit
        if digits.isEmpty then none
        else
          let size : Int := digitsValue digits
          some (if negative then -size else size, rest.dropWhile isDigit)
      else none
  | [] => none

/-- A whole number, unless it has too many digits. -/
def wholeNumber (negative : Bool) (digits : List Char) : Except Excess Json :=
  if maxDigits < digits.length then .error (.digits digits.length)
  else
    let size : Int := digitsValue digits
    .ok (.int (if negative then -size else size))

/-- The longest number at the front of the text. -/
def readNumber? (text : List Char) : Option (Except Excess Json × List Char) :=
  let (negative, unsigned) :=
    match text with
    | '-' :: rest => (true, rest)
    | rest => (false, rest)
  match readWhole? unsigned with
  | none => none
  | some (whole, rest) =>
      let (fraction, rest) := readFraction rest
      match readExponent? rest with
      | some (exponent, rest) =>
          some (.ok (.float (.ofDecimal negative (digitsValue (whole ++ fraction))
            (exponent - fraction.length))), rest)
      | none =>
          if fraction.isEmpty then some (wholeNumber negative whole, rest)
          else
            some (.ok (.float (.ofDecimal negative (digitsValue (whole ++ fraction))
              (-(fraction.length : Int)))), rest)

/-! ## Values -/

/-- The words that stand for values. -/
def words : List (List Char × Json) :=
  [("null".toList, .null), ("true".toList, .bool true), ("false".toList, .bool false),
   ("NaN".toList, .float .notANumber), ("Infinity".toList, .float (.infinite false)),
   ("-Infinity".toList, .float (.infinite true))]

/-- A word or a number. -/
def readScalar (text : List Char) : Reading Json :=
  match words.find? fun word => word.1.isPrefixOf text with
  | some (word, value) => .ok (value, text.drop word.length)
  | none =>
      match readNumber? text with
      | some (.ok value, rest) => .ok (value, rest)
      | some (.error excess, _) => .error (.excess excess)
      | none => .error (.fault .valueExpected text)

/-- A field name with the colon and the gaps around it. -/
def readName (text : List Char) : Except Failure (String × List Char) :=
  match text with
  | '"' :: rest => do
      let (name, rest) ← readString text rest
      match skipGap rest with
      | ':' :: rest => .ok (name, skipGap rest)
      | rest => .error (.fault .colonExpected rest)
  | rest => .error (.fault .nameExpected rest)

mutual

/-- Read a value at the front of the text. `room` is how many values may still be opened inside
each other. The bound limits the number of values still to be read; a text never holds more than
it has characters. -/
def readValue (room : Nat) : Nat → List Char → Except Failure (Json × List Char)
  | 0, text => .error (.fault .valueExpected text)
  | bound + 1, text =>
      match text with
      | '"' :: rest => do
          let (read, rest) ← readString text rest
          .ok (.str read, rest)
      | '[' :: rest =>
          if room = 0 then .error (.excess (.nesting .array))
          else
            match skipGap rest with
            | ']' :: rest => .ok (.arr [], rest)
            | rest => do
                let (items, rest) ← readItems (room - 1) bound rest
                .ok (.arr items, rest)
      | '\x7b' :: rest =>
          if room = 0 then .error (.excess (.nesting .object))
          else
            match skipGap rest with
            | '\x7d' :: rest => .ok (.obj [], rest)
            | rest => do
                let (fields, rest) ← readFields (room - 1) bound rest
                .ok (.obj (Table.ofPairs fields), rest)
      | _ => readScalar text

/-- Read the items of an array up to its closing bracket. -/
def readItems (room : Nat) : Nat → List Char → Except Failure (List Json × List Char)
  | 0, text => .error (.fault .valueExpected text)
  | bound + 1, text => do
      let (item, rest) ← readValue room bound text
      match skipGap rest with
      | ']' :: rest => .ok ([item], rest)
      | ',' :: rest =>
          let (items, rest) ← readItems room bound (skipGap rest)
          .ok (item :: items, rest)
      | rest => .error (.fault .commaExpected rest)

/-- Read the fields of an object up to its closing brace. -/
def readFields (room : Nat) :
    Nat → List Char → Except Failure (List (String × Json) × List Char)
  | 0, text => .error (.fault .valueExpected text)
  | bound + 1, text => do
      let (name, rest) ← readName text
      let (value, rest) ← readValue room bound rest
      match skipGap rest with
      | '\x7d' :: rest => .ok ([(name, value)], rest)
      | ',' :: rest =>
          let (fields, rest) ← readFields room bound (skipGap rest)
          .ok ((name, value) :: fields, rest)
      | rest => .error (.fault .commaExpected rest)

end

/-! ## Whole texts -/

structure SyntaxError where
  fault : Fault
  line : Nat
  column : Nat
deriving DecidableEq, Repr

def SyntaxError.message (error : SyntaxError) : String :=
  s!"Line {error.line}, column {error.column}: {error.fault.message}"

/-- The line and column, both from one, of the place where `rest` begins in `text`. Only LF ends
a line here. -/
def placeOf (text rest : List Char) : Nat × Nat :=
  let before := text.take (text.length - rest.length)
  (before.count '\n' + 1, Surrogate.size (before.reverse.takeWhile (· != '\n')) + 1)

def readWholeText (text : List Char) : Except Failure Json := do
  if text.head? = some '\uFEFF' then
    throw (.fault .byteOrderMark text)
  let (value, rest) ← readValue maxNesting (2 * text.length + 1) (skipGap text)
  match skipGap rest with
  | [] => .ok value
  | rest => .error (.fault .textAfterValue rest)

/-- Why a text is not read. -/
inductive ReadError where
  | notJson (error : SyntaxError)
  | excess (excess : Excess)
deriving DecidableEq, Repr

/-- Read a text that holds one value and nothing else. -/
def parse (text : String) : Except ReadError Json :=
  match readWholeText text.toList with
  | .ok value => .ok value
  | .error (.excess excess) => .error (.excess excess)
  | .error (.fault fault rest) =>
      let (line, column) := placeOf text.toList rest
      .error (.notJson { fault, line, column })

end Json
end Typings
