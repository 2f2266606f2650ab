import Typings.Tree.Declaration

/-!
# Forests of declarations

A forest is empty, or a first declaration with the forest below it and the rest of the forest
beside it.

* `Forest.hang`: a declaration added at the end of the children of its parent;
* `Forest.walk`: the declarations, each before those below it, found with a stack of forests;
* `Forest.libraries`, `Forest.method?`: what is looked up on this walk;
* `Forest.map`: a change of every declaration that keeps the shape.
-/

namespace Typings

inductive Forest where
  | empty
  | grow (declaration : Declaration) (below beside : Forest)
deriving DecidableEq, Repr

namespace Forest

/-! ## Growing -/

/-- A declaration without children behind the trees of a forest. -/
def append (d : Declaration) : Forest → Forest
  | .empty => .grow d .empty .empty
  | .grow first below beside => .grow first below (append d beside)

/-- A declaration behind the children of the declaration with the name `parent`. -/
def appendUnder (parent : String) (d : Declaration) : Forest → Forest
  | .empty => .empty
  | .grow first below beside =>
      if first.fullName = parent then .grow first (append d below) beside
      else .grow first (appendUnder parent d below) (appendUnder parent d beside)

/-- A declaration at its place: below the declaration that its name lies in, or as a root when its
name has no dot. -/
def hang (forest : Forest) (d : Declaration) : Forest :=
  match QualifiedName.parent? d.fullName with
  | some parent => forest.appendUnder parent d
  | none => forest.append d

def map (f : Declaration → Declaration) : Forest → Forest
  | .empty => .empty
  | .grow d below beside => .grow (f d) (map f below) (map f beside)

/-! ## Walking -/

/-- The number of declarations. -/
def size : Forest → Nat
  | .empty => 0
  | .grow _ below beside => 1 + size below + size beside

/-- Steps that a stack of forests still takes. -/
def stackSize : List Forest → Nat
  | [] => 0
  | forest :: stack => 2 * forest.size + 1 + stackSize stack

/-- Take the declarations from a stack of forests: the first one of the topmost forest, then those
below it, then those beside it. -/
def walkStack : List Forest → List Declaration
  | [] => []
  | .empty :: stack => walkStack stack
  | .grow d below beside :: stack => d :: walkStack (below :: beside :: stack)
termination_by stack => stackSize stack
decreasing_by
  · simp only [stackSize]
    omega
  · simp only [stackSize, size]
    omega

/-- The declarations of a forest, each before those below it and those before the ones beside
it. -/
def walk (forest : Forest) : List Declaration :=
  walkStack [forest]

/-- The libraries of the documented declarations, in order of first appearance. -/
def libraries (forest : Forest) : List String :=
  (forest.walk.filterMap fun d =>
    if !d.isContainer && d.library ≠ "" then some d.library else none).foldl TypeText.addNew []

/-- The first method or constructor of a full name. -/
def method? (forest : Forest) (fullName : String) : Option Method :=
  forest.walk.findSome? fun d => d.callables.find? fun method => method.fullName = fullName

end Forest
end Typings
