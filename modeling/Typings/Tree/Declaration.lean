import Typings.Hierarchy.Basic
import Typings.Text.Pieces

/-!
# Declarations

A declaration is what becomes of a documented symbol: its names and description, and a body that
depends on its kind. A container is a namespace that no document describes; it exists because the
names of other symbols lie in it.

* `Declaration.ofSymbol`: the declaration of a documented symbol;
* `Declaration.class?`: a declared class as the hierarchy sees it;
* `Declaration.mapMethods`: a change of the methods that keeps everything else.
-/

namespace Typings

/-! ## Names -/

namespace QualifiedName

/-- The part of a name behind its last dot. -/
def simple (name : String) : String :=
  String.ofList (Text.afterLast '.' name.toList)

/-- The part of a name before its last dot, when it has one. -/
def parent? (name : String) : Option String :=
  if '.' ∈ name.toList then some (String.ofList (Text.beforeLast '.' name.toList)) else none

/-- The number of dots in a name. -/
def depth (name : String) : Nat :=
  name.toList.count '.'

/-- The names that contain a name, the longest first: it is cut at each of its dots. The bound
is the number of dots to cut at. -/
def enclosingWithin : Nat → String → List String
  | 0, _ => []
  | bound + 1, name =>
      match parent? name with
      | some parent => parent :: enclosingWithin bound parent
      | none => []

/-- The names that contain a name, the longest first. -/
def enclosing (name : String) : List String :=
  enclosingWithin (depth name) name

/-- Whether a name is an entry or lies below it. -/
def coveredBy (name entry : String) : Bool :=
  name = entry || (entry ++ ".").toList.isPrefixOf name.toList

end QualifiedName

/-! ## Bodies -/

/-- The methods and properties of a symbol. -/
structure Members where
  methods : List Method := []
  properties : List Property := []
deriving DecidableEq, Repr

inductive Body where
  /-- A namespace that no document describes. -/
  | container
  | nameSpace (members : Members)
  | classType (base : Option String) (interfaces : List String) (constructor : Option Method)
      (members : Members)
  | interfaceType (base : Option String) (members : Members)
  | enumeration (entries : List Property)
  | typeAlias
deriving DecidableEq, Repr

namespace Body

def kind : Body → Kind
  | .container | .nameSpace _ => .nameSpace
  | .classType .. => .classType
  | .interfaceType .. => .interfaceType
  | .enumeration _ => .enumeration
  | .typeAlias => .typeAlias

def methods : Body → List Method
  | .nameSpace members | .classType _ _ _ members | .interfaceType _ members => members.methods
  | _ => []

def properties : Body → List Property
  | .nameSpace members | .classType _ _ _ members | .interfaceType _ members =>
      members.properties
  | .enumeration entries => entries
  | _ => []

def constructor? : Body → Option Method
  | .classType _ _ constructor _ => constructor
  | _ => none

def base? : Body → Option String
  | .classType base .. | .interfaceType base _ => base
  | _ => none

def interfaces : Body → List String
  | .classType _ interfaces _ _ => interfaces
  | _ => []

/-- The body with every method changed, the constructor included. -/
def mapMethods (f : Method → Method) : Body → Body
  | .nameSpace members => .nameSpace { members with methods := members.methods.map f }
  | .classType base interfaces constructor members =>
      .classType base interfaces (constructor.map f)
        { members with methods := members.methods.map f }
  | .interfaceType base members =>
      .interfaceType base { members with methods := members.methods.map f }
  | other => other

end Body

/-! ## Declarations -/

structure Declaration where
  fullName : String
  library : String
  moduleName : Option String := none
  description : String := ""
  body : Body
deriving DecidableEq, Repr

namespace Declaration

/-- The simple name of the symbol. -/
def name (d : Declaration) : String :=
  QualifiedName.simple d.fullName

def kind (d : Declaration) : Kind :=
  d.body.kind

/-- Whether no document describes the symbol. -/
def isContainer (d : Declaration) : Bool :=
  d.body = .container

/-- The namespace that a name lies in, as long as no document describes it. -/
def containerFor (fullName library : String) : Declaration where
  fullName := fullName
  library := library
  body := .container

/-- The methods of a symbol, its constructor behind them. -/
def callables (d : Declaration) : List Method :=
  d.body.methods ++ d.body.constructor?.toList

def mapMethods (f : Method → Method) (d : Declaration) : Declaration :=
  { d with body := d.body.mapMethods f }

/-- A declared class as the hierarchy sees it. -/
def class? (d : Declaration) : Option Class :=
  match d.body with
  | .classType base _ _ members =>
      some { name := d.name, fullName := d.fullName, base, methods := members.methods }
  | _ => none

/-- A declared class with the methods that the hierarchy holds for it. -/
def withMethodsFrom (h : Hierarchy) (d : Declaration) : Declaration :=
  match d.body with
  | .classType base interfaces constructor members =>
      match h.get? d.fullName with
      | some c =>
          { d with
            body := .classType base interfaces constructor { members with methods := c.methods } }
      | none => d
  | _ => d

/-! ## From documents -/

/-- The body of a documented symbol. -/
def bodyOf (replacements : Config.Replacements) (symbol : Document.Symbol) : Body :=
  let name := symbol.heading.name
  let members (kind : Kind) (members : Document.Members) : Members :=
    { methods := members.methods.map (Method.ofDocument replacements name kind)
      properties := members.properties.map (Property.ofDocument replacements name) }
  match symbol.content with
  | .nameSpace _ documented => .nameSpace (members .nameSpace documented)
  | .classType base interfaces _ constructor documented =>
      .classType base interfaces (constructor.map (Method.ofConstructor replacements name))
        (members .classType documented)
  | .interfaceType base documented => .interfaceType base (members .interfaceType documented)
  | .enumeration entries =>
      .enumeration (entries.map (Property.ofDocument replacements name))
  | .typeAlias => .typeAlias

/-- The declaration of a symbol that a library documents. -/
def ofSymbol (replacements : Config.Replacements) (library : String)
    (symbol : Document.Symbol) : Declaration where
  fullName := symbol.heading.name
  library := library
  moduleName := symbol.heading.moduleName
  description := symbol.heading.description
  body := bodyOf replacements symbol

/-- The reports that declaring members makes: for the methods, then for the properties. -/
def memberWarnings (replacements : Config.Replacements) (name : String)
    (members : Document.Members) : List Warning :=
  members.methods.flatMap (Method.warnings replacements name) ++
    members.properties.flatMap (Property.warnings replacements name)

/-- The reports that declaring a symbol makes, those of a constructor last. -/
def warnings (replacements : Config.Replacements) (symbol : Document.Symbol) : List Warning :=
  let name := symbol.heading.name
  match symbol.content with
  | .nameSpace _ members | .interfaceType _ members => memberWarnings replacements name members
  | .classType _ _ _ constructor members =>
      memberWarnings replacements name members ++
        constructor.toList.flatMap (Method.constructorWarnings replacements name)
  | .enumeration entries => entries.flatMap (Property.warnings replacements name)
  | .typeAlias => []

end Declaration
end Typings
