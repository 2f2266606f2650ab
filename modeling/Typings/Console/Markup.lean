import Typings.Console.Action
import Typings.Console.Emoji
import Typings.Console.Style
import Typings.Console.Width
import Typings.Text.Pieces

/-!
# Console texts

A text for the console may hold tags in square brackets. They are not printed: an opening tag is
remembered, a closing tag ends the last one of its name, and `[/]` ends the last one. A backslash
in front of a tag prints the tag. Emoji codes are replaced, and tabs become spaces.

* `Console.cut`: the texts and tags of a text;
* `Console.join`: its characters, and the spans of them that its tags describe;
* `Console.plain`: a text as it is printed, or what is wrong with its tags.

A description is read once for the name of its tag and once more for its span. A span that is lost
when a text is cut into lines and at its tabs is not read again.
-/

namespace Typings
namespace Console

/-! ## Pieces of a text -/

inductive Piece where
  | text (characters : List Char)
  /-- A tag with the position of its bracket. -/
  | tag (position : Nat) (content : List Char)
deriving DecidableEq, Repr

/-- Whether a character may follow the bracket of a tag. -/
def startsTag (c : Char) : Bool :=
  ('a' ≤ c && c ≤ 'z') || c = '#' || c = '/' || c = '@'

/-- The content of a tag whose bracket is already taken. No bracket opens inside a tag. -/
def tagContent? (text : List Char) : Option (List Char) :=
  let isInside (c : Char) : Bool := c ≠ ']' && c ≠ '['
  match text, text.dropWhile isInside with
  | c :: _, ']' :: _ => if startsTag c then some (text.takeWhile isInside) else none
  | _, _ => none

/-- A text as a piece, unless it is empty. -/
def pieceOf (characters : List Char) : List Piece :=
  if characters.isEmpty then [] else [.text characters]

/-- Cut a text into pieces, leaving out the first `skip` characters. `run` holds the characters
behind the last piece, the nearest one first. Two backslashes in front of a tag stand for one, and
a single one prints the tag. -/
def cut (position skip : Nat) (run : List Char) : List Char → List Piece
  | [] => pieceOf run.reverse
  | c :: rest =>
      match skip with
      | skip + 1 => cut (Surrogate.next position c) skip run rest
      | 0 =>
          match if c = '[' then tagContent? rest else none with
          | some content =>
              let slashes := (run.takeWhile (· = '\\')).length
              let piece :=
                if slashes % 2 = 1 then .text ('[' :: content ++ [']'])
                else .tag position content
              pieceOf (run.drop slashes).reverse ++ pieceOf (List.replicate (slashes / 2) '\\') ++
                piece :: cut (Surrogate.next position c) (content.length + 1) [] rest
          | none => cut (Surrogate.next position c) 0 (c :: run) rest

/-! ## Texts -/

/-- The control characters that are not printed. -/
def isDropped (c : Char) : Bool :=
  [7, 8, 11, 12, 13].contains c.toNat

/-- A text piece as it is printed. -/
def shown (characters : List Char) : List Char :=
  (replaceCodes (Text.replaceFrom ['\\', '['] ['['] 0 characters)).filter (!isDropped ·)

/-! ## Tags -/

/-- What is wrong with the tags of a text. -/
inductive MarkupError where
  | nothingToClose (position : Nat)
  | unmatched (content : String) (position : Nat)
  | action (reason : String)
  /-- A component of a colour is no number. -/
  | component (fault : ComponentFault)
deriving DecidableEq, Repr

def MarkupError.message : MarkupError → String
  | .nothingToClose position => s!"closing tag '[/]' at position {position} has nothing to close"
  | .unmatched content position =>
      s!"closing tag '[{content}]' at position {position} doesn't match any open tag"
  | .action reason => reason
  | .component fault => fault.message

structure OpenTag where
  name : String
  parameters : Option String
deriving DecidableEq, Repr

namespace OpenTag

/-- An opening tag. Its name is the name of a style, or what was written. -/
def ofContent (content : List Char) : Except ComponentFault OpenTag :=
  (styleName (content.takeWhile (· ≠ '='))).map fun name =>
    { name
      parameters :=
        if content.contains '=' then some (String.ofList ((content.dropWhile (· ≠ '=')).drop 1))
        else none }

def isAction (tag : OpenTag) : Bool :=
  tag.name.toList.head? = some '@'

/-- What is found wrong with a tag when it is closed. -/
def closingError? (tag : OpenTag) : Option MarkupError :=
  match tag.parameters with
  | some parameters =>
      if tag.isAction && parameters ≠ "" then (Action.fault? parameters).map .action else none
  | none => none

/-- What a tag with its parameters says about a span. -/
def description (tag : OpenTag) : List Char :=
  match tag.parameters with
  | some parameters => (tag.name ++ " " ++ parameters).toList
  | none => tag.name.toList

end OpenTag

/-! ## Spans -/

/-- The characters from one place to another with their description. -/
structure Span where
  start : Nat
  stop : Nat
  description : List Char
deriving DecidableEq, Repr

/-- An open tag with its place among the printed characters. -/
structure Opening where
  start : Nat
  tag : OpenTag
deriving DecidableEq, Repr

/-- The span that ends here. An action describes nothing. -/
def Opening.span? (opening : Opening) (stop : Nat) : Option Span :=
  if opening.tag.isAction then none
  else some ⟨opening.start, stop, opening.tag.description⟩

/-- Close a tag, given the open ones, the last one first: the tag and the others. -/
def close (opened : List Opening) (position : Nat) (content : List Char) :
    Except MarkupError (Opening × List Opening) :=
  let name := Text.trim ((content.takeWhile (· ≠ '=')).drop 1)
  if name.isEmpty then
    match opened with
    | opening :: others => .ok (opening, others)
    | [] => .error (.nothingToClose position)
  else
    match styleName name with
    | .error fault => .error (.component fault)
    | .ok style =>
        match opened.find? (·.tag.name = style) with
        | some opening => .ok (opening, opened.eraseP (·.tag.name = style))
        | none => .error (.unmatched (String.ofList content) position)

/-- The characters of pieces and the spans of their tags, in the order in which these are closed.
`opened` holds the open tags, the last one first, and `place` counts the characters before. -/
def join (place : Nat) (opened : List Opening) :
    List Piece → Except MarkupError (List Char × List Span)
  | [] => .ok ([], opened.filterMap (·.span? place))
  | .text characters :: pieces => do
      let characters := shown characters
      let (printed, spans) ← join (place + characters.length) opened pieces
      return (characters ++ printed, spans)
  | .tag position content :: pieces =>
      if content.head? = some '/' then do
        let (opening, others) ← close opened position content
        match opening.tag.closingError? with
        | some error => throw error
        | none =>
            let (printed, spans) ← join place others pieces
            return (printed, (opening.span? place).toList ++ spans)
      else
        match OpenTag.ofContent content with
        | .ok tag => join place (⟨place, tag⟩ :: opened) pieces
        | .error fault => .error (.component fault)

/-- What is wrong with the description of a span. -/
def Span.fault? (span : Span) : Option ComponentFault :=
  match readStyle span.description with
  | .faulty fault => some fault
  | .style _ | .noStyle => none

/-- The ranges of a text between its line ends and behind its tabs, from a place on. -/
def ranges (start stop : Nat) : List Char → List (Nat × Nat)
  | [] => [(start, stop)]
  | c :: rest =>
      if c = '\n' then (start, stop) :: ranges (stop + 1) (stop + 1) rest
      else if c = '\t' then (start, stop + 1) :: ranges (stop + 1) (stop + 1) rest
      else ranges start (stop + 1) rest

/-- The first fault in the spans of a text. In a text that is cut into ranges only the spans that
hold a character of one count. -/
def spanFault? (printed : List Char) (spans : List Span) : Option ComponentFault :=
  let inOrder := spans.reverse.mergeSort fun a b => a.start ≤ b.start
  match ranges 0 0 printed with
  | [_] => inOrder.findSome? Span.fault?
  | several => several.findSome? fun range =>
      (inOrder.filter fun span => max span.start range.1 < min span.stop range.2).findSome?
        Span.fault?

/-! ## Printing -/

/-- A text as it is printed. -/
def plain (text : String) : Except MarkupError String := do
  let (printed, spans) ← join 0 [] (cut 0 0 [] text.toList)
  match spanFault? printed spans with
  | some fault => throw (.component fault)
  | none => return String.ofList (expandTabs printed)

end Console
end Typings
