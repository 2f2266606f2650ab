import Typings.Member.Parameter

/-!
# Declared methods and properties

A method keeps the kind and the full name of the symbol that owns it. Building one applies the
configured replacements; later only override reconciliation changes its result type and
visibility, and planning its overloads the types of its parameters.

* `Method.ofDocument`: a documented method of a symbol;
* `Method.ofConstructor`: the constructor of a class;
* `Property.ofDocument`: a documented property of a symbol.
-/

namespace Typings

/-! ## Methods -/

/-- What a method returns, with the description of it. -/
structure Outcome where
  type : String := voidType
  description : String := ""
deriving DecidableEq, Repr

structure Method where
  name : String
  fullName : String
  ownerName : String
  ownerKind : Kind
  isStatic : Bool := false
  visibility : Visibility := .isPublic
  description : String := ""
  parameters : List Parameter := []
  outcome : Outcome := {}
deriving DecidableEq, Repr

namespace Method

def isConstructor (method : Method) : Bool :=
  method.name = constructorName

/-- The full name of a member of a symbol. -/
def qualify (ownerName name : String) : String :=
  ownerName ++ "." ++ name

/-- A documented text that is not empty. -/
def stated? (text : Option String) : Option String :=
  text.filter (· ≠ "")

/-- The description of the documented result. -/
def outcomeDescription (method : Document.Method) : String :=
  ((method.returnValue.bind (·.description)).getD "")

/-- The result type before replacement: the configured one, else the documented one, else `any`
for a described result and `void` otherwise. -/
def statedOutcome (rules : Config.MemberRules) (fullName : String) (method : Document.Method) :
    String :=
  (NameRule.forced? rules.methodReturnType fullName method.name).getD
    ((stated? (method.returnValue.bind (·.type))).getD
      (if outcomeDescription method = "" then voidType else anyType))

/-- Whether a method stays static. -/
def staysStatic (rules : Config.MemberRules) (fullName : String) (method : Document.Method) :
    Bool :=
  method.isStatic && !NameRule.names rules.methodRemoveStatic fullName method.name

/-- The declared result type. A method of a class that returns its own class returns `this`,
unless it is static, a constructor or excluded by the configuration. -/
def declaredOutcome (replacements : Config.Replacements) (ownerName : String) (ownerKind : Kind)
    (method : Document.Method) : String :=
  let rules := replacements.specific
  let fullName := qualify ownerName method.name
  let type := TypeText.replace replacements (statedOutcome rules fullName method)
  if ¬ staysStatic rules fullName method ∧ method.name ≠ constructorName ∧
      ownerKind = .classType ∧ type = ownerName ∧ fullName ∉ rules.methodReturnTypeNotThis then
    selfType
  else type

def ofDocument (replacements : Config.Replacements) (ownerName : String) (ownerKind : Kind)
    (method : Document.Method) : Method where
  name := method.name
  fullName := qualify ownerName method.name
  ownerName := ownerName
  ownerKind := ownerKind
  isStatic := staysStatic replacements.specific (qualify ownerName method.name) method
  visibility := method.visibility
  description := method.description
  parameters := method.parameters.map
    (Parameter.ofDocument replacements (qualify ownerName method.name))
  outcome :=
    { type := declaredOutcome replacements ownerName ownerKind method
      description := outcomeDescription method }

def ofConstructor (replacements : Config.Replacements) (ownerName : String)
    (constructor : Document.Constructor) : Method where
  name := constructorName
  fullName := qualify ownerName constructorName
  ownerName := ownerName
  ownerKind := .classType
  visibility := constructor.visibility
  description := constructor.description
  parameters := constructor.parameters.map
    (Parameter.ofDocument replacements (qualify ownerName constructorName))

/-- The reports that declaring a method makes: for its result, then for its parameters. -/
def warnings (replacements : Config.Replacements) (ownerName : String)
    (method : Document.Method) : List Warning :=
  let fullName := qualify ownerName method.name
  TypeText.warnings replacements (statedOutcome replacements.specific fullName method) ++
    method.parameters.flatMap (Parameter.warnings replacements fullName)

/-- The reports that declaring a constructor makes. -/
def constructorWarnings (replacements : Config.Replacements) (ownerName : String)
    (constructor : Document.Constructor) : List Warning :=
  constructor.parameters.flatMap
    (Parameter.warnings replacements (qualify ownerName constructorName))

end Method

/-! ## Properties -/

structure Property where
  name : String
  fullName : String
  type : String
  isStatic : Bool
  visibility : Visibility
  description : String
deriving DecidableEq, Repr

namespace Property

/-- The type that the configuration gives a property, whatever its documented type is. -/
def forcedType? (rules : Config.MemberRules) (fullName name : String) : Option String :=
  NameRule.forced? rules.propertyType fullName name

def ofDocument (replacements : Config.Replacements) (ownerName : String)
    (property : Document.Property) : Property where
  name := property.name
  fullName := Method.qualify ownerName property.name
  type := (forcedType? replacements.specific (Method.qualify ownerName property.name)
    property.name).getD (TypeText.replace replacements property.type)
  isStatic := property.isStatic
  visibility := property.visibility
  description := property.description

/-- The reports that declaring a property makes. -/
def warnings (replacements : Config.Replacements) (ownerName : String)
    (property : Document.Property) : List Warning :=
  match forcedType? replacements.specific (Method.qualify ownerName property.name)
      property.name with
  | some _ => []
  | none => TypeText.warnings replacements property.type

end Property
end Typings
