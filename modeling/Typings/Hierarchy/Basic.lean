import Typings.Member.Method
import Typings.Table

/-!
# Class hierarchies

A hierarchy holds classes in the order in which they were added. A class names its base class, and
a base need not be there. Two tables index the list of classes by position: one by full name, the
other by the name of the base class. `add` extends all three together, so a subclass that is listed
under a base always has an entry of its own.

* `Hierarchy.add`: add a class; the first class of a full name stays;
* `Hierarchy.get?`, `Hierarchy.subclassesOf`, `Hierarchy.roots`: lookups, in order of addition;
* `Hierarchy.lineage`: a class followed by its base classes, each once.
-/

namespace Typings

/-- A class as the hierarchy sees it. -/
structure Class where
  name : String
  fullName : String
  base : Option String := none
  methods : List Method := []
deriving DecidableEq, Repr

namespace Class

/-- The first own method of a name that is static or not as asked. -/
def method? (c : Class) (name : String) (isStatic : Bool) : Option Method :=
  c.methods.find? fun method => method.name = name && method.isStatic = isStatic

end Class

structure Hierarchy where
  classes : List Class := []
  /-- Full names with positions in the list of classes. -/
  positions : Table Nat := []
  /-- Names of base classes with the positions of the classes that extend them. -/
  extensions : Table (List Nat) := []
deriving DecidableEq, Repr

namespace Hierarchy

/-! ## Lookups -/

def contains (h : Hierarchy) (name : String) : Bool :=
  (List.lookup name h.positions).isSome

/-- The class of a full name. -/
def get? (h : Hierarchy) (name : String) : Option Class :=
  (List.lookup name h.positions).bind fun position => h.classes[position]?

/-- The base class of a class, when it is there. -/
def baseOf (h : Hierarchy) (c : Class) : Option Class :=
  c.base.bind h.get?

/-- The positions of the classes that name a base class. -/
def extensionsOf (h : Hierarchy) (name : String) : List Nat :=
  (List.lookup name h.extensions).getD []

/-- The classes that name a base class, in order of addition. -/
def subclassesOf (h : Hierarchy) (name : String) : List Class :=
  (h.extensionsOf name).filterMap fun position => h.classes[position]?

/-- The classes without a base class in the hierarchy, in order of addition. -/
def roots (h : Hierarchy) : List Class :=
  h.classes.filter fun c => (h.baseOf c).isNone

/-- The full names of the classes, in order of addition. -/
def names (h : Hierarchy) : List String :=
  h.classes.map (·.fullName)

/-! ## Adding -/

/-- List a position under a base name; an empty name is no base. -/
def listUnder (base : Option String) (position : Nat) (extensions : Table (List Nat)) :
    Table (List Nat) :=
  match base with
  | some name =>
      if name = "" then extensions
      else extensions.put name ((List.lookup name extensions).getD [] ++ [position])
  | none => extensions

/-- The hierarchy with one class more, unless its full name is taken. -/
def add? (h : Hierarchy) (c : Class) : Option Hierarchy :=
  if h.contains c.fullName then none
  else
    some
      { classes := h.classes ++ [c]
        positions := h.positions.put c.fullName h.classes.length
        extensions := listUnder c.base h.classes.length h.extensions }

/-- Add a class; a class whose full name is taken changes nothing. -/
def add (h : Hierarchy) (c : Class) : Hierarchy :=
  (h.add? c).getD h

/-- The hierarchy of a list of classes, added in order. -/
def ofList (classes : List Class) : Hierarchy :=
  classes.foldl add {}

/-- The report that adding a class makes. -/
def addWarnings (h : Hierarchy) (c : Class) : List Warning :=
  if h.contains c.fullName then [.repeatedClass c.fullName] else []

/-- The hierarchy with every class changed in its methods only. -/
def mapMethods (h : Hierarchy) (f : Class → List Method) : Hierarchy :=
  { h with classes := h.classes.map fun c => { c with methods := f c } }

/-! ## Lineage -/

/-- A class followed by its base classes as far as they are unseen. -/
def lineageWithin (h : Hierarchy) (unseen : List String) (c : Class) : List Class :=
  match h.baseOf c with
  | some base =>
      if base.fullName ∈ unseen then
        c :: lineageWithin h (unseen.erase base.fullName) base
      else [c]
  | none => [c]
termination_by unseen.length
decreasing_by
  rename_i hmem
  have := List.length_pos_of_mem hmem
  rw [List.length_erase_of_mem hmem]
  omega

/-- A class followed by its base class, the base class of that one, and so on, up to a base that
is not there or a class that came before. -/
def lineage (h : Hierarchy) (c : Class) : List Class :=
  lineageWithin h (h.names.erase c.fullName) c

end Hierarchy
end Typings
