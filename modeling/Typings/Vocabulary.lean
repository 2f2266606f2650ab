/-!
# Words shared by documents and declarations

* `Kind`: what a symbol is; `Visibility`: who may use it;
* the type words `any`, `void` and `this`, and the name of constructors.
-/

namespace Typings

inductive Kind where
  | nameSpace
  | classType
  | enumeration
  | interfaceType
  | typeAlias
deriving DecidableEq, Repr

namespace Kind

/-- The kind as documents and messages spell it. -/
def word : Kind → String
  | .nameSpace => "namespace"
  | .classType => "class"
  | .enumeration => "enum"
  | .interfaceType => "interface"
  | .typeAlias => "typedef"

def all : List Kind :=
  [.nameSpace, .classType, .enumeration, .interfaceType, .typeAlias]

def ofWord? (word : String) : Option Kind :=
  all.find? fun kind => kind.word = word

theorem ofWord?_word (kind : Kind) : ofWord? kind.word = some kind := by
  cases kind <;> decide

end Kind

inductive Visibility where
  | isPublic
  | isProtected
  | isRestricted
deriving DecidableEq, Repr

namespace Visibility

/-- The visibility as documents spell it. -/
def word : Visibility → String
  | .isPublic => "public"
  | .isProtected => "protected"
  | .isRestricted => "restricted"

def all : List Visibility :=
  [.isPublic, .isProtected, .isRestricted]

def ofWord? (word : String) : Option Visibility :=
  all.find? fun visibility => visibility.word = word

theorem ofWord?_word (visibility : Visibility) : ofWord? visibility.word = some visibility := by
  cases visibility <;> decide

end Visibility

/-! ## Type words -/

/-- The type that every value has. -/
def anyType : String := "any"

/-- The type of a method without a result. -/
def voidType : String := "void"

/-- The type of the object on which a method is called. -/
def selfType : String := "this"

/-- The name of a constructor among the methods of a class. -/
def constructorName : String := "constructor"

end Typings
