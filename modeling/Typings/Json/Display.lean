import Typings.Json.Value
import Typings.Number.Decimal
import Typings.Text.Quoted

/-!
# Values in messages

`Json.display` is the form in which a message names a value found in a document: `None`, `True`
and `False` as words, numbers in their shortest form, and strings quoted when they stand inside
a list or a table. Surrogates in the whole text are replaced.
-/

namespace Typings
namespace Json

mutual

/-- A value inside a list or a table, where strings are quoted. -/
def displayNested : Json → String
  | .null => "None"
  | .bool true => "True"
  | .bool false => "False"
  | .int value => toString value
  | .float value => value.shortestText
  | .str value => Text.quoted value
  | .arr items => "[" ++ ", ".intercalate (displayItems items) ++ "]"
  | .obj fields => "\x7b" ++ ", ".intercalate (displayFields fields) ++ "\x7d"

def displayItems : List Json → List String
  | [] => []
  | item :: items => displayNested item :: displayItems items

def displayFields : List (String × Json) → List String
  | [] => []
  | (key, value) :: fields =>
      (Text.quoted key ++ ": " ++ displayNested value) :: displayFields fields

end

/-- A value as a message names it. -/
def display : Json → String
  | .str value => Surrogate.replaced value
  | other => displayNested other

end Json
end Typings
