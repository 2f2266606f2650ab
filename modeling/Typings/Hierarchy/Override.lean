import Typings.Hierarchy.Compatible

/-!
# Overriding methods

A documented method may return something unrelated to what the overridden method returns, or be
protected where that one is public. Reconciliation settles every method of the classes below a
root on the method it overrides, base classes before their subclasses.

* `Hierarchy.overridden?`: the nearest method that a method overrides, with its class;
* `settleMethod`: a method after it is settled on the one it overrides;
* `settlingOrder`: the names of the classes below the roots, base classes first;
* `reconcile`: the hierarchy with these classes settled in this order.
-/

namespace Typings
namespace Hierarchy

/-! ## The overridden method -/

/-- The classes above a class, nearest first, without the class itself. -/
def ancestors (h : Hierarchy) (c : Class) : List Class :=
  match h.baseOf c with
  | some base => (h.lineage base).takeWhile fun ancestor => ancestor.fullName ≠ c.fullName
  | none => []

/-- The nearest method above a class with the name of a method and static like it, together with
the class that declares it. -/
def overridden? (h : Hierarchy) (c : Class) (method : Method) : Option (Class × Method) :=
  (h.ancestors c).findSome? fun ancestor =>
    (ancestor.method? method.name method.isStatic).map fun found => (ancestor, found)

/-! ## Settling -/

/-- The result type that a method has to take over. A method that overrides one returning its own
class has to return its own class in turn, unless the configuration excludes it. -/
def requiredOutcome? (h : Hierarchy) (rules : Config.MemberRules) (declaring : Class)
    (overridden : Method) (c : Class) (method : Method) : Option String :=
  if h.compatible overridden.outcome.type method.outcome.type then none
  else if overridden.outcome.type = declaring.fullName then
    if method.outcome.type ≠ c.fullName ∧ method.fullName ∉ rules.methodReturnTypeNotThis then
      some c.fullName
    else none
  else some overridden.outcome.type

/-- The result type after settling. The types `any` and the empty one are never taken over, and a
method that returns `this` keeps it. -/
def settledOutcome (h : Hierarchy) (rules : Config.MemberRules) (declaring : Class)
    (overridden : Method) (c : Class) (method : Method) : String :=
  match h.requiredOutcome? rules declaring overridden c method with
  | some type =>
      if type ≠ "" ∧ type ≠ anyType ∧ method.outcome.type ≠ selfType then type
      else method.outcome.type
  | none => method.outcome.type

/-- The visibility after settling: a protected method that overrides a public one is public. -/
def settledVisibility (overridden method : Method) : Visibility :=
  if overridden.visibility = .isPublic ∧ method.visibility = .isProtected then .isPublic
  else method.visibility

/-- A method of a class settled on the method it overrides. -/
def settleMethod (h : Hierarchy) (rules : Config.MemberRules) (c : Class) (method : Method) :
    Method :=
  match h.overridden? c method with
  | some (declaring, overridden) =>
      { method with
        outcome := { method.outcome with
          type := h.settledOutcome rules declaring overridden c method }
        visibility := settledVisibility overridden method }
  | none => method

/-- The hierarchy with the methods of one class settled. -/
def settleClass (rules : Config.MemberRules) (h : Hierarchy) (name : String) : Hierarchy :=
  h.mapMethods fun c =>
    if c.fullName = name then c.methods.map (h.settleMethod rules c) else c.methods

/-! ## Order -/

/-- The names of the classes below a class, each before those below it, as far as they are
unseen. -/
def descendantsWithin (h : Hierarchy) (unseen : List String) (name : String) : List String :=
  (h.subclassesOf name).flatMap fun subclass =>
    if subclass.fullName ∈ unseen then
      subclass.fullName :: descendantsWithin h (unseen.erase subclass.fullName) subclass.fullName
    else []
termination_by unseen.length
decreasing_by
  rename_i hmem
  have := List.length_pos_of_mem hmem
  rw [List.length_erase_of_mem hmem]
  omega

/-- The names of the classes below the roots, base classes before their subclasses. -/
def settlingOrder (h : Hierarchy) : List String :=
  h.roots.flatMap fun root => h.descendantsWithin h.names root.fullName

/-- The hierarchy with every class below a root settled on its base classes. -/
def reconcile (rules : Config.MemberRules) (h : Hierarchy) : Hierarchy :=
  h.settlingOrder.foldl (settleClass rules) h

end Hierarchy
end Typings
