import Typings.Json.Value
import Typings.Vocabulary

/-!
# Documents of an API

A document describes the symbols of one library as they were published. It is only read: nothing
later changes it.

* `Symbol`: a heading that every symbol has, and a content that depends on its kind;
* `Parameter`, `Method`, `Property`, `Event`, `Constructor`: what symbols have as members;
* `Document`: the library, its version and its symbols.
-/

namespace Typings
namespace Document

/-! ## Members -/

/-- A parameter; `defaultValue` is `null` when none is documented. -/
structure Parameter where
  name : String
  type : String
  optional : Bool
  spread : Bool
  description : String
  defaultValue : Json
deriving DecidableEq

structure ReturnValue where
  type : Option String
  description : Option String
deriving DecidableEq

structure Method where
  name : String
  visibility : Visibility
  isStatic : Bool
  description : String
  parameters : List Parameter
  returnValue : Option ReturnValue
deriving DecidableEq

/-- A property of a symbol, or a member of an enumeration. -/
structure Property where
  name : String
  type : String
  visibility : Visibility
  isStatic : Bool
  description : String
deriving DecidableEq

/-- An event with its parameters as free-form values. -/
structure Event where
  name : String
  visibility : Visibility
  description : String
  parameters : List (String × Json)
deriving DecidableEq

structure Constructor where
  visibility : Visibility
  description : String
  parameters : List Parameter
deriving DecidableEq

/-! ## Symbols -/

/-- What every symbol has. -/
structure Heading where
  name : String
  basename : String
  visibility : Visibility
  moduleName : Option String
  resource : Option String
  description : String
deriving DecidableEq

/-- The members of a namespace, a class or an interface. -/
structure Members where
  methods : List Method
  properties : List Property
  events : List Event
deriving DecidableEq

/-- What a symbol has by its kind. -/
inductive Content where
  | nameSpace (base : Option String) (members : Members)
  | classType (base : Option String) (interfaces : List String) (isAbstract : Bool)
      (constructor : Option Constructor) (members : Members)
  | enumeration (entries : List Property)
  | interfaceType (base : Option String) (members : Members)
  | typeAlias
deriving DecidableEq

def Content.kind : Content → Kind
  | .nameSpace .. => .nameSpace
  | .classType .. => .classType
  | .enumeration .. => .enumeration
  | .interfaceType .. => .interfaceType
  | .typeAlias => .typeAlias

structure Symbol where
  heading : Heading
  content : Content
deriving DecidableEq

end Document

/-- The published description of a library. -/
structure Document where
  library : String
  version : String
  symbols : List Document.Symbol
deriving DecidableEq

end Typings
