import Typings.Console.Literal.Number

/-!
# What literal values are read as

* `Node`: an expression, as far as values and messages ask for it;
* `Node.word`: the word for an expression in messages;
* `Node.invalidTarget?`: the part of an expression that cannot stand behind `for`.
-/

namespace Typings
namespace Console
namespace Literal

inductive Constant where
  | noneWord
  | trueWord
  | falseWord
  | ellipsis
  | number (number : Number)
  | text
  | bytes
deriving DecidableEq, Repr

inductive Node where
  | name (word : String)
  | constant (value : Constant)
  | list (items : List Node)
  | tuple (items : List Node)
  | set (items : List Node)
  /-- Entries of a dictionary; an unpacked one has no key. -/
  | dict (entries : List (Option Node × Node))
  | starred (value : Node)
  | sign (signs : String) (operand : Node)
  | binary (signs : String) (left right : Node)
  | comparison (firstOperator : String) (left : Node)
  | call (function : Node) (arguments keywords : List Node)
  /-- A keyword argument, or an unpacked dictionary of them. -/
  | keyword (isNamed : Bool)
  | attribute
  | subscript
  /-- Another expression, by its word. -/
  | other (word : String)
deriving Repr

namespace Node

def word : Node → String
  | .name _ => "name"
  | .constant .noneWord => "None"
  | .constant .trueWord => "True"
  | .constant .falseWord => "False"
  | .constant .ellipsis => "ellipsis"
  | .constant (.number _) | .constant .text | .constant .bytes => "literal"
  | .list _ => "list"
  | .tuple _ => "tuple"
  | .set _ => "set display"
  | .dict _ => "dict literal"
  | .starred _ => "starred"
  | .sign .. | .binary .. => "expression"
  | .comparison .. => "comparison"
  | .call .. => "function call"
  | .keyword _ => "keyword"
  | .attribute => "attribute"
  | .subscript => "subscript"
  | .other word => word

mutual

/-- The first part of an expression to which no value can be given. Only the left side of a
comparison by `in` counts: its right side is what the values come from. -/
def invalidTarget? : Node → Option Node
  | .list items | .tuple items => firstInvalidTarget? items
  | .starred value => value.invalidTarget?
  | .comparison operator left => if operator = "in" then left.invalidTarget? else none
  | .name _ | .attribute | .subscript => none
  | node => some node

def firstInvalidTarget? : List Node → Option Node
  | [] => none
  | item :: items => (invalidTarget? item).or (firstInvalidTarget? items)

end

end Node
end Literal
end Console
end Typings
