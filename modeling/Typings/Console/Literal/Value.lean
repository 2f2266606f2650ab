import Typings.Console.Literal.Reading

/-!
# Values of literals

Not every expression writes a value: constants, numbers with a sign, sums of a number and an
imaginary one, lists, tuples, sets and dictionaries do.

* `Shape`: what a value is, as far as sets and dictionaries ask for it;
* `Node.shape`: the shape of the value that an expression writes, or why it writes none;
* `Literal.fault?`: what is wrong with the writing of a value.
-/

namespace Typings
namespace Console
namespace Literal

/-- What a value is. -/
inductive Shape where
  | plain
  | tuple (items : List Shape)
  | list
  | set
  | dict
deriving Repr

/-- Why an expression writes no value. -/
inductive ValueFault where
  /-- A member of a set or a key of a dictionary that may change. -/
  | changeable (kind : String)
  /-- An unpacked dictionary, which has no key. -/
  | withoutKey
  /-- A whole number that is too large for a sum with an imaginary one. -/
  | tooLarge
  /-- An expression of another kind. -/
  | otherKind
deriving DecidableEq, Repr

def ValueFault.message : ValueFault → String
  | .changeable kind => s!"unhashable type: '{kind}'"
  | .withoutKey => "malformed node or string: None"
  | .tooLarge => "int too large to convert to float"
  | .otherKind => "malformed node or string"

namespace Shape

mutual

/-- The kind of the first part of a value that may change. -/
def changeable? : Shape → Option String
  | .plain => none
  | .list => some "list"
  | .set => some "set"
  | .dict => some "dict"
  | .tuple items => firstChangeable? items

def firstChangeable? : List Shape → Option String
  | [] => none
  | item :: items => (changeable? item).or (firstChangeable? items)

end

/-- Check that a value may be a member of a set or a key of a dictionary. -/
def checkFixed (shape : Shape) : Except ValueFault Unit :=
  match shape.changeable? with
  | none => .ok ()
  | some kind => .error (.changeable kind)

end Shape

/-! ## Numbers -/

/-- The smallest whole number that is too large to become a real one: the one halfway between the
greatest real number and the next power of two. -/
def tooLargeWhole : Nat :=
  Nat.pow 2 1024 - Nat.pow 2 970

namespace Node

/-- The number that an expression writes without a sign. -/
def number? : Node → Option Number
  | .constant (.number number) => some number
  | _ => none

/-- The number that an expression writes, perhaps behind one sign. -/
def signedNumber? : Node → Option Number
  | .sign signs operand => if signs = "+" || signs = "-" then operand.number? else none
  | node => node.number?

/-- The value of a sum or difference. -/
def sumShape (signs : String) (left right : Node) : Except ValueFault Shape :=
  if signs ≠ "+" && signs ≠ "-" then .error .otherKind
  else match left.signedNumber?, right.number? with
    | some .real, some .imaginary => .ok .plain
    | some (.whole value), some .imaginary =>
        if tooLargeWhole ≤ value then .error .tooLarge else .ok .plain
    | _, _ => .error .otherKind

/-! ## Values -/

mutual

/-- The shape of the value that an expression writes. -/
def shape : Node → Except ValueFault Shape
  | .constant _ => .ok .plain
  | .tuple items => do return .tuple (← shapes items)
  | .list items => do
      let _ ← shapes items
      return .list
  | .set items => do
      checkMembers items
      return .set
  | .call (.name "set") [] [] => .ok .set
  | .dict entries => do
      checkEntries entries
      return .dict
  | .binary signs left right => sumShape signs left right
  | .sign signs operand =>
      if (signedNumber? (.sign signs operand)).isSome then .ok .plain else .error .otherKind
  | _ => .error .otherKind

/-- The shapes of values in a row. -/
def shapes : List Node → Except ValueFault (List Shape)
  | [] => .ok []
  | item :: items => do return (← shape item) :: (← shapes items)

/-- Check the members of a set. -/
def checkMembers : List Node → Except ValueFault Unit
  | [] => .ok ()
  | item :: items => do
      (← shape item).checkFixed
      checkMembers items

/-- Check the entries of a dictionary: the value of each one is read before its key is kept. -/
def checkEntries : List (Option Node × Node) → Except ValueFault Unit
  | [] => .ok ()
  | (none, _) :: _ => .error .withoutKey
  | (some key, value) :: entries => do
      let key ← shape key
      let _ ← shape value
      key.checkFixed
      checkEntries entries

end

end Node

/-! ## Writings -/

/-- What is wrong with the writing of a value. -/
inductive Fault where
  /-- It is no expression. -/
  | noExpression (message : String)
  /-- It is an expression without a value. -/
  | noValue (fault : ValueFault)
deriving DecidableEq, Repr

/-- What is wrong with a text that should write a value. -/
def fault? (text : List Char) : Option Fault :=
  match Reading.expression text with
  | .error message => some (.noExpression message)
  | .ok node =>
      match node.shape with
      | .error fault => some (.noValue fault)
      | .ok _ => none

end Literal
end Console
end Typings
