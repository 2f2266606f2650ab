import Typings.Console.Literal.Value
import Typings.Text.Blank
import Typings.Text.Quoted
import Typings.Text.Word

/-!
# Action tags

A tag whose name starts with an at sign stands for an action. Its parameters write a value, perhaps
behind the name of a handler.

* `Action.valueText`: the part of the parameters that writes the value;
* `Action.fault?`: what is wrong with the parameters.
-/

namespace Typings
namespace Console

/-- What is wrong with the parameters of an action. -/
inductive ActionFault where
  /-- The text of the value is no expression. -/
  | noExpression (value : String) (message : String)
  /-- There is no value for another reason. -/
  | noValue (message : String)
deriving DecidableEq, Repr

/-- The message about some parameters. -/
def ActionFault.message (fault : ActionFault) (parameters : String) : String :=
  let written := Text.quoted parameters
  match fault with
  | .noExpression value message =>
      let quoted := Text.quoted value
      s!"error parsing {quoted} in {written}; {message}"
  | .noValue message => s!"error parsing {written}; {message}"

namespace Action

/-- The part of trimmed parameters that writes the value. A handler without a value has an empty
one. -/
def valueText (parameters : List Char) : List Char :=
  match parameters.dropWhile fun c => c = '.' || Text.isWordPart c with
  | [] => ['(', ')']
  | c :: rest =>
      if c = '(' && rest.getLast? = some ')' && !rest.contains '\n' then c :: rest
      else parameters

/-- What is wrong with the writing of a value. Blanks in front of it do not count. -/
def valueFault? (value : List Char) : Option ActionFault :=
  let text := value.dropWhile fun c => c = ' ' || c = '\t'
  match Surrogate.fault? (String.ofList text) with
  | some fault => some (.noValue fault.message)
  | none =>
      if text.contains '\x00' then some (.noValue "source code string cannot contain null bytes")
      else match Literal.fault? (Surrogate.release text) with
        | some (.noExpression message) => some (.noExpression (String.ofList value) message)
        | some (.noValue fault) => some (.noValue fault.message)
        | none => none

/-- What is wrong with the parameters of an action tag. -/
def fault? (parameters : String) : Option String :=
  (valueFault? (valueText (Text.trim parameters.toList))).map (·.message parameters)

end Action
end Console
end Typings
