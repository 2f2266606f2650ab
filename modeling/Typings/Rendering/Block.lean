import Typings.Overload
import Typings.Member.Method
import Typings.Rendering.Comment

/-!
# Blocks of methods

A method is declared by blocks, one for each planned overload. A block is a comment followed by a
signature; it is not indented.

* `Method.isDropped`: whether the configuration leaves a method out;
* `Method.blocks`: the blocks of a method, or the reason why it cannot have any;
* `Method.afterBlocks`: the method as planning its overloads leaves it, with the types of some
  parameters widened. The blocks show these types.
-/

namespace Typings

/-- A method lies in a symbol of a kind that has no methods. -/
structure UnsupportedKind where
  kind : Kind
  method : String
deriving DecidableEq, Repr

def UnsupportedKind.message (error : UnsupportedKind) : String :=
  let kind := error.kind.word
  s!"Symbol kind '{kind}' cannot have methods ({error.method})"

/-- The keyword of a visibility; restricted members are declared as protected. -/
def Visibility.keyword : Visibility → String
  | .isRestricted => Visibility.isProtected.word
  | visibility => visibility.word

namespace Method

/-! ## Leaving out -/

/-- Whether the configuration leaves a method out, as a static method or by its name. -/
def isDropped (config : Config) (method : Method) : Bool :=
  (method.ownerKind = .classType && method.isStatic &&
      config.ignoreStatic.contains method.fullName) ||
    NameRule.names config.replacements.specific.filterMethods method.fullName method.name

/-! ## Parts of a block -/

/-- What stands in front of the name of a method. -/
def declarator (method : Method) : Except UnsupportedKind String :=
  match method.ownerKind with
  | .nameSpace => .ok "function "
  | .interfaceType => .ok ""
  | .classType =>
      .ok (method.visibility.keyword ++ " " ++ (if method.isStatic then "static " else ""))
  | kind => .error ⟨kind, method.fullName⟩

/-- The signature of a method with the given parameters and result type. A constructor has no
result type. -/
def signature (method : Method) (parameters : List Parameter) (outcome : String) :
    Except UnsupportedKind String := do
  let declarator ← method.declarator
  let annotation := if method.isConstructor then "" else ": " ++ outcome
  return declarator ++ method.name ++ "(" ++
    ", ".intercalate (parameters.map Parameter.signature) ++ ")" ++ annotation ++ ";"

/-- The tags of a comment: the parameters, then the result unless there is none. -/
def tags (parameters : List Parameter) (outcome : Outcome) : List String :=
  parameters.map Parameter.tag ++
    if outcome.type = voidType then []
    else [Parameter.trimmedTag
      ("@returns \x7b" ++ outcome.type ++ "\x7d " ++ outcome.description)]

/-- One block of a method. -/
def block (method : Method) (description : String) (parameters : List Parameter)
    (outcome : Outcome) : Except UnsupportedKind String := do
  let signature ← method.signature parameters outcome.type
  return "\n".intercalate (Comment.format description (tags parameters outcome) ++ [signature])

/-! ## Blocks -/

/-- The description of the overload that takes and returns everything. -/
def compatibilityDescription : String :=
  "This method overload is here just for compatibility reasons to avoid compiler errors, " ++
    "because the UI5 API doesn't follow all TypeScript method override rules. Don't use it."

/-- The parameter of the overload that takes everything. -/
def everything : Parameter :=
  { name := "args", type := anyType ++ "[]", spread := true }

/-- The additional overload of a method that the configuration lists for it. -/
def compatibilityBlocks (config : Config) (method : Method) :
    Except UnsupportedKind (List String) :=
  if config.replacements.specific.methodOverridesNotCompatible.contains method.fullName then
    (method.block compatibilityDescription [everything] { type := anyType }).map fun text =>
      [text]
  else .ok []

/-- The blocks of a method: one for each planned overload, then the additional one. -/
def blocks (config : Config) (method : Method) : Except UnsupportedKind (List String) :=
  if method.isDropped config then .ok []
  else do
    let planned ← (Plan.ofParameters method.parameters).parameterLists.mapM fun parameters =>
      method.block method.description parameters method.outcome
    let additional ← method.compatibilityBlocks config
    return planned ++ additional

/-- The method as making its blocks leaves it. -/
def afterBlocks (config : Config) (method : Method) : Method :=
  if method.isDropped config then method
  else { method with parameters := (Plan.ofParameters method.parameters).parameters }

end Method
end Typings
