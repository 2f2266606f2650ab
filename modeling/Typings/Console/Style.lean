import Typings.Console.ColorNames
import Typings.Json.Reader
import Typings.Text.Blank
import Typings.Text.Case
import Typings.Text.Digit
import Typings.Text.Hexadecimal

/-!
# Styles

A style is described by words: attributes such as `bold`, also behind `not`, a colour, a colour
behind `on`, and an address behind `link`.

* `Console.readStyle`: the style that a description gives;
* `Style.text`: the one description of a style that stands for all others;
* `Console.styleName`: the name by which a closing tag finds the opening one.
-/

namespace Typings
namespace Console

/-! ## Words -/

/-- The attributes, in the order in which a description names them. -/
def attributes : List String :=
  ["bold", "dim", "italic", "underline", "blink", "blink2", "reverse", "conceal", "strike",
   "underline2", "frame", "encircle", "overline"]

/-- The short words for attributes. -/
def shortAttributes : List (String × String) :=
  [("d", "dim"), ("b", "bold"), ("i", "italic"), ("u", "underline"), ("r", "reverse"),
   ("c", "conceal"), ("s", "strike"), ("uu", "underline2"), ("o", "overline")]

def attributeOf? (word : String) : Option String :=
  if attributes.contains word then some word else List.lookup word shortAttributes

/-- The words of a text between its blanks. -/
def words (text : List Char) : List String :=
  ((text.splitBy fun a b => Text.isBlank a == Text.isBlank b).filter fun piece =>
    !Text.isBlankText piece).map String.ofList

/-! ## Colours -/

/-- Why a component of a colour is no number. -/
inductive ComponentFault where
  | empty
  | tooLong (digits : Nat)
deriving DecidableEq, Repr

def ComponentFault.message : ComponentFault → String
  | .empty => "invalid literal for int() with base 10: ''"
  | .tooLong digits => (Json.Excess.digits digits).message

/-- What a word says about a colour. A component that is no number is a failure of its own. -/
inductive ColorWord where
  | color
  | noColor
  | faulty (fault : ComponentFault)
deriving DecidableEq, Repr

/-- Whether digits write a number of at most 255. -/
def isComponent (digits : List Char) : Bool :=
  Text.decimalNumber digits ≤ 255

def componentFault? (digits : List Char) : Option ComponentFault :=
  if digits.isEmpty then some .empty
  else if Json.maxDigits < digits.length then some (.tooLong digits.length)
  else none

/-- The text between a word with its bracket and the closing bracket. -/
def argument? (word : String) (text : List Char) : Option (List Char) :=
  let opening := word.toList
  match text.reverse with
  | ')' :: rest =>
      if opening.isPrefixOf text && opening.length < text.length then
        some (rest.reverse.drop opening.length)
      else none
  | _ => none

/-- Three components between commas. -/
def readComponents (text : List Char) : ColorWord :=
  let components := text.splitOn ','
  if components.length ≠ 3 then .noColor
  else
    match components.findSome? componentFault? with
    | some fault => .faulty fault
    | none => if components.all isComponent then .color else .noColor

/-- What a word in small letters says about a colour: it is the name of one, or writes its
components. -/
def readColor (word : String) : ColorWord :=
  let text := word.toList
  if word = "default" ∨ colorNames.contains word then .color
  else
    match text with
    | '#' :: digits =>
        if digits.length = 6 && digits.all fun c => (Text.hexValue? c).isSome then .color
        else .noColor
    | _ =>
        match argument? "color(" text, argument? "rgb(" text with
        | some digits, _ =>
            if digits.all Json.isDigit && 1 ≤ digits.length && digits.length ≤ 3 &&
                isComponent digits then .color
            else .noColor
        | none, some components =>
            if !components.isEmpty &&
                components.all fun c => (Text.digitValue? c).isSome || c = ',' then
              readComponents components
            else .noColor
        | none, none => .noColor

/-! ## Styles -/

structure Style where
  /-- The attributes that are turned on or off. -/
  attributes : List (String × Bool) := []
  color : Option String := none
  background : Option String := none
  link : Option String := none
deriving DecidableEq, Repr

namespace Style

/-- The description of a style in a fixed order. -/
def text (style : Style) : String :=
  let flags := Console.attributes.filterMap fun name =>
    (List.lookup name style.attributes).map fun on => if on then name else "not " ++ name
  let background := (style.background.map fun color => "on " ++ color).toList
  let link := (style.link.map fun address => "link " ++ address).toList
  let parts := flags ++ style.color.toList ++ background ++ link
  if parts.isEmpty then "none" else " ".intercalate parts

def withAttribute (name : String) (on : Bool) (style : Style) : Style :=
  { style with attributes := (name, on) :: style.attributes }

end Style

/-- What a description gives. -/
inductive StyleReading where
  | style (style : Style)
  | noStyle
  | faulty (fault : ComponentFault)
deriving DecidableEq, Repr

/-- Continue with a style when a word is a colour. -/
def StyleReading.ofColor (word : ColorWord) (next : StyleReading) : StyleReading :=
  match word with
  | .color => next
  | .noColor => .noStyle
  | .faulty fault => .faulty fault

/-- Read words into a style. A word behind `not` is taken as it is, others in small letters. -/
def readWords (style : Style) : List String → StyleReading
  | [] => .style style
  | written :: rest =>
      let word := Text.lower written
      match word, rest with
      | "on", color :: rest =>
          let color := Text.lower color
          .ofColor (readColor color) (readWords { style with background := some color } rest)
      | "not", name :: rest =>
          match attributeOf? name with
          | some found => readWords (style.withAttribute found false) rest
          | none => .noStyle
      | "link", address :: rest => readWords { style with link := some address } rest
      | "on", [] | "not", [] | "link", [] => .noStyle
      | _, rest =>
          match attributeOf? word with
          | some found => readWords (style.withAttribute found true) rest
          | none => .ofColor (readColor word) (readWords { style with color := some word } rest)

/-- The style that a description gives; `none` alone gives the empty one. -/
def readStyle (description : List Char) : StyleReading :=
  if Text.trim description = "none".toList then .style {}
  else readWords {} (words description)

/-- The name of a style: its fixed description, or what was written when it is no style. There is
no name when a component of a colour is no number. -/
def styleName (description : List Char) : Except ComponentFault String :=
  match readStyle description with
  | .style style => .ok style.text
  | .noStyle => .ok (Text.lower (String.ofList (Text.trim description)))
  | .faulty fault => .error fault

end Console
end Typings
