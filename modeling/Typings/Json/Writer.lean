import Typings.Json.Value
import Typings.Number.Decimal

/-!
# Writing JSON text

* `Json.Layout`: all on one line, or every item on a line of its own behind a repeated indent;
* `escape`: a string as JSON writes it, with only the quote, the backslash and the characters
  below U+0020 escaped;
* `Json.render`: a value in a layout.

Infinite and undefined numbers have no JSON form; `Json.finiteOnly` removes them beforehand.
-/

namespace Typings
namespace Json

/-! ## Strings and numbers -/

/-- The lower-case hexadecimal digit of a value below sixteen. -/
def hexDigit (value : Nat) : Char :=
  Nat.digitChar value

/-- A character inside a string. -/
def escapeChar (c : Char) : List Char :=
  match c with
  | '"' => ['\\', '"']
  | '\\' => ['\\', '\\']
  | '\n' => ['\\', 'n']
  | '\r' => ['\\', 'r']
  | '\t' => ['\\', 't']
  | '\x08' => ['\\', 'b']
  | '\x0C' => ['\\', 'f']
  | c =>
      if c < ' ' then
        ['\\', 'u', '0', '0', hexDigit (c.toNat / 16), hexDigit (c.toNat % 16)]
      else [c]

/-- A string between quotes. -/
def quote (text : String) : List Char :=
  '"' :: (text.toList.flatMap escapeChar ++ ['"'])

def intText (value : Int) : List Char :=
  Binary64.signText (value < 0) ++ decimalDigits value.natAbs

/-! ## Layout -/

inductive Layout where
  /-- Everything on one line, a blank after each comma and colon. -/
  | inline
  /-- Every item on its own line, indented by the unit once per level. -/
  | block (unit : List Char)
deriving DecidableEq, Repr

namespace Layout

/-- The break before an item or closing bracket at a level. -/
def lineBreak (level : Nat) : Layout → List Char
  | .inline => []
  | .block unit => '\n' :: (List.replicate level unit).flatten

/-- What stands between two items at a level. -/
def separator (level : Nat) : Layout → List Char
  | .inline => [',', ' ']
  | .block unit => ',' :: lineBreak level (.block unit)

end Layout

/-! ## Values -/

mutual

/-- The text of a value that stands at a level of nesting. -/
def renderAt (layout : Layout) (level : Nat) : Json → List Char
  | .null => ['n', 'u', 'l', 'l']
  | .bool true => ['t', 'r', 'u', 'e']
  | .bool false => ['f', 'a', 'l', 's', 'e']
  | .int value => intText value
  | .float value => value.shortestText.toList
  | .str value => quote value
  | .arr [] => ['[', ']']
  | .arr (item :: items) =>
      '[' :: (layout.lineBreak (level + 1) ++ renderAt layout (level + 1) item ++
        renderItems layout (level + 1) items ++ layout.lineBreak level ++ [']'])
  | .obj [] => ['\x7b', '\x7d']
  | .obj ((key, value) :: fields) =>
      '\x7b' :: (layout.lineBreak (level + 1) ++ quote key ++ [':', ' '] ++
        renderAt layout (level + 1) value ++
        renderFields layout (level + 1) fields ++ layout.lineBreak level ++ ['\x7d'])

/-- The items after the first, each behind its separator. -/
def renderItems (layout : Layout) (level : Nat) : List Json → List Char
  | [] => []
  | item :: items =>
      layout.separator level ++ renderAt layout level item ++ renderItems layout level items

/-- The fields after the first, each behind its separator. -/
def renderFields (layout : Layout) (level : Nat) : List (String × Json) → List Char
  | [] => []
  | (key, value) :: fields =>
      layout.separator level ++ quote key ++ [':', ' '] ++ renderAt layout level value ++
        renderFields layout level fields

end

/-- The text of a value. -/
def render (layout : Layout) (value : Json) : String :=
  String.ofList (renderAt layout 0 value)

end Json
end Typings
