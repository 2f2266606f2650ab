import Typings.Document.Basic
import Typings.TypeText

/-!
# Declared parameters

* `Parameter.ofDocument`: a documented parameter with its configured type;
* `Parameter.compatible`: whether one parameter may be passed in place of another;
* `Parameter.signature`, `Parameter.tag`: its text in a signature and in a comment.
-/

namespace Typings

/-- A parameter of a declared method. -/
structure Parameter where
  name : String
  type : String := anyType
  optional : Bool := false
  spread : Bool := false
  description : String := ""
  hasDefault : Bool := false
deriving DecidableEq, Repr

namespace Parameter

/-! ## From documents -/

/-- The type that the configuration gives a parameter, whatever its documented type is. -/
def forcedType? (rules : Config.MemberRules) (methodName name : String) : Option String :=
  NameRule.forced? rules.methodParameterType (methodName ++ "." ++ name) name

def ofDocument (replacements : Config.Replacements) (methodName : String)
    (parameter : Document.Parameter) : Parameter where
  name := parameter.name
  type := (forcedType? replacements.specific methodName parameter.name).getD
    (TypeText.replace replacements parameter.type)
  optional := parameter.optional
  spread := parameter.spread
  description := parameter.description
  hasDefault := parameter.defaultValue ≠ .null

/-- The reports that declaring a parameter makes. -/
def warnings (replacements : Config.Replacements) (methodName : String)
    (parameter : Document.Parameter) : List Warning :=
  match forcedType? replacements.specific methodName parameter.name with
  | some _ => []
  | none => TypeText.warnings replacements parameter.type

/-! ## Changes -/

/-- The parameter as one that has to be given. -/
def required (parameter : Parameter) : Parameter :=
  { parameter with optional := false }

/-- The parameter with a type that takes every value. -/
def widened (parameter : Parameter) : Parameter :=
  { parameter with type := anyType }

/-- Equal types are compatible, and `any` is compatible with every type. -/
def compatible (one other : Parameter) : Bool :=
  one.type = other.type || one.type = anyType || other.type = anyType

/-! ## Texts -/

/-- The parameter inside a signature. -/
def signature (parameter : Parameter) : String :=
  if parameter.spread then
    "..." ++ parameter.name ++ ": " ++ TypeText.arrayOf parameter.type
  else
    parameter.name ++ (if parameter.optional then "?" else "") ++ ": " ++ parameter.type

/-- A comment tag without the blanks at its end. -/
def trimmedTag (text : String) : String :=
  String.ofList (Text.trimRight text.toList)

/-- The parameter as a comment tag. -/
def tag (parameter : Parameter) : String :=
  let name := if parameter.optional then "[" ++ parameter.name ++ "]" else parameter.name
  trimmedTag ("@param \x7b" ++ parameter.type ++ "\x7d " ++ name ++ " " ++ parameter.description)

end Parameter
end Typings
