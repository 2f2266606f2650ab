import Typings.Console.Literal.Grammar
import Typings.Console.Literal.Quotes

/-!
# Reading literal values

A text is read by the grammar, and once more with a look for mistakes when it is no expression.

* `Reading.expression`: the expression that a text writes, or what is wrong with the text.

What is wrong with the brackets and characters of a text counts more than a mistake that the grammar
finds in front of it.
-/

namespace Typings
namespace Console
namespace Literal

/-- Where an expression stands: on its own, or in a field of a text between quotes. -/
inductive Setting where
  | alone
  | field
deriving DecidableEq, Repr

namespace Setting

/-- The rule that an expression follows. -/
def rule : Setting → Rule
  | .alone => .whole
  | .field => .embedded

/-- The wording of a message about an expression. -/
def wording : Setting → String → String
  | .alone, message => message
  | .field, message => s!"f-string: {message}"

end Setting

namespace Reading

/-- What is wrong with a text that is no expression. -/
def plainMessage : String :=
  "invalid syntax"

/-- A bound for the depth of rules and patterns in a text of some tokens. -/
def depthBound (size : Nat) : Nat :=
  1000 * (size + 2)

/-- What one passage through the tokens found. -/
structure Passage where
  found : Except Stop (Option Value)
  /-- The number of tokens that were looked at. -/
  seen : Nat

/-- Read tokens once; `seen` tokens were looked at before. -/
def pass (grammar : Grammar Rule) (scan : Scan) (tokens : Array Token) (rule : Rule)
    (diagnoses : Bool) (seen : Nat) : Passage :=
  let state : State Rule :=
    { seen, diagnoses, findings := Array.replicate (tokens.size + 1) [] }
  let (found, state) :=
    (Reader.rule grammar scan tokens (depthBound tokens.size) rule).run.run state
  { found, seen := state.seen }

/-- The message that a text gets. What is wrong behind the tokens that were looked at counts more
than the given message, and so does a bracket that is open since an earlier line. -/
def counting (scan : Scan) (setting : Setting) (last : Option Token) (message : String) : String :=
  match scan.ending with
  | none => message
  | some ending =>
      if ending.isUrgent then ending.message
      else match ending.opened, last with
        | some (bracket, line), some token =>
            if line < token.line then setting.wording (Place.unclosed bracket) else message
        | _, _ => message

/-- The message of a text with a mistake. An end of the text that was met together with the last
token is no reason for another one. -/
def mistakeMessage (scan : Scan) (setting : Setting) (last : Option Token) (message : String) :
    String :=
  if last.any (·.meetsEnd) then message else counting scan setting last message

/-- The message where the tokens of a text end too early. -/
def endingMessage (setting : Setting) (ending : Ending) : String :=
  if ending.isUrgent then ending.message else setting.wording ending.message

/-- What is wrong with tokens that are no expression. A plain reading looked at `seen` of them. -/
def fault (grammar : Grammar Rule) (scan : Scan) (tokens : Array Token) (setting : Setting)
    (seen : Nat) : String :=
  let passage := pass grammar scan tokens setting.rule true seen
  match passage.found with
  | .error (.noToken ending) => endingMessage setting ending
  | .error (.mistake message) => mistakeMessage scan setting tokens[passage.seen - 1]? message
  | .ok _ =>
      match (tokens[seen - 1]?).map Token.kind with
      | some .indent => setting.wording "unexpected indent"
      | some .dedent => setting.wording "unexpected unindent"
      | _ => counting scan setting tokens[passage.seen - 1]? (setting.wording plainMessage)

/-- Read an expression that starts on a line. -/
def expressionAt (readField : (line : Nat) → List Char → Except String Unit) (setting : Setting)
    (line : Nat) (text : List Char) : Except String Node :=
  let scan := Scan.ofText line text
  let tokens := scan.tokens.toArray
  let grammar := grammar setting.wording (Quotes.read readField)
  let passage := pass grammar scan tokens setting.rule false 0
  match passage.found with
  | .ok (some (.node node)) => .ok node
  | .ok _ => .error (fault grammar scan tokens setting passage.seen)
  | .error (.noToken ending) => .error (endingMessage setting ending)
  | .error (.mistake message) =>
      .error (mistakeMessage scan setting tokens[passage.seen - 1]? message)

/-- Read the expression of a field. The bound limits how many texts stand inside each other. -/
def field : Nat → (line : Nat) → List Char → Except String Unit
  | 0, _, _ => .ok ()
  | bound + 1, line, text => do
      let _ ← expressionAt (field bound) .field line text

/-- The expression that a text writes. -/
def expression (text : List Char) : Except String Node :=
  expressionAt (field text.length) .alone 1 text

end Reading
end Literal
end Console
end Typings
