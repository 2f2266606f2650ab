import Typings.Hierarchy.Basic

/-!
# Compatible result types

`Hierarchy.compatible` says whether a method may return one type where an overridden method
returns another: equal types, no result expected, a candidate that fits everywhere, or a class
below the expected one. Classes are compared by their simple names.
-/

namespace Typings
namespace Hierarchy

/-- Whether a class of the candidate's lineage has the simple name of the expected class. -/
def descendsByName (h : Hierarchy) (expected candidate : String) : Bool :=
  match h.get? expected, h.get? candidate with
  | some expectedClass, some candidateClass =>
      (h.lineage candidateClass).any fun link => link.name = expectedClass.name
  | _, _ => false

/-- Whether a result of type `candidate` can stand in for one of type `expected`. -/
def compatible (h : Hierarchy) (expected candidate : String) : Bool :=
  expected = candidate || expected = voidType || candidate = anyType || candidate = selfType ||
    h.descendsByName expected candidate

end Hierarchy
end Typings
