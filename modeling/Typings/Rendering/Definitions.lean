import Typings.Rendering.Block
import Typings.Tree.Forest

/-!
# Definitions of a library

The definitions are the ambient declarations of a forest, of all libraries or of one. A library is
shown with the namespaces that lead to its symbols; of other libraries nothing but these wrappers
appears.

* `Definitions.holds`: whether a tree has a symbol to show;
* `Definitions.text`: the text of the definitions;
* `Definitions.after`: the forest as rendering leaves it; every method that was shown has planned
  its overloads once.
-/

namespace Typings
namespace Definitions

/-! ## What is shown -/

/-- Whether a documented symbol belongs to the library to show. -/
def owned (library : Option String) (d : Declaration) : Bool :=
  !d.isContainer && (library.isNone || library = some d.library)

/-- Whether some tree of a forest is shown. -/
def holdsAny (library : Option String) : Forest → Bool
  | .empty => false
  | .grow d below beside =>
      library.isNone || owned library d || holdsAny library below || holdsAny library beside

/-- Whether a tree is shown: all are without a library, otherwise those with a symbol of it. -/
def holds (library : Option String) (d : Declaration) (below : Forest) : Bool :=
  library.isNone || owned library d || holdsAny library below

/-! ## Lines -/

/-- The lines of a text, indented; empty lines stay empty. -/
def indented (unit : String) (level : Nat) (text : String) : List String :=
  (text.toList.splitOn '\n').map fun line =>
    if line.isEmpty then "" else String.join (List.replicate level unit) ++ String.ofList line

/-- The comment of a description; a blank one has none. -/
def commentLines (unit : String) (level : Nat) (description : String) : List String :=
  if Text.isBlankText description.toList then []
  else indented unit level ("\n".intercalate (Comment.format description []))

/-- The lines between an opening and a closing brace. -/
def braced (unit : String) (level : Nat) (header : String) (lines : List String) : List String :=
  indented unit level (header ++ " \x7b") ++ lines ++ indented unit level "\x7d"

/-- A property as the owner's kind declares it. -/
def propertyText (owner : Kind) (property : Property) : String :=
  match owner with
  | .nameSpace => "var " ++ property.name ++ ": " ++ property.type ++ ";"
  | .interfaceType => property.name ++ ": " ++ property.type ++ ";"
  | _ =>
      property.visibility.keyword ++ " " ++ (if property.isStatic then "static " else "") ++
        property.name ++ ": " ++ property.type ++ ";"

def propertyLines (unit : String) (level : Nat) (owner : Kind) (property : Property) :
    List String :=
  commentLines unit level property.description ++
    indented unit level (propertyText owner property)

/-- A member of an enumeration has its own name as its value. -/
def entryLines (unit : String) (level : Nat) (entry : Property) : List String :=
  commentLines unit level entry.description ++
    indented unit level (entry.name ++ " = \"" ++ entry.name ++ "\",")

def methodLines (config : Config) (level : Nat) (method : Method) :
    Except UnsupportedKind (List String) := do
  let blocks ← method.blocks config
  return blocks.flatMap (indented config.output.indentation level)

/-- The lines of several methods. -/
def methodsLines (config : Config) (level : Nat) (methods : List Method) :
    Except UnsupportedKind (List String) := do
  let lines ← methods.mapM (methodLines config level)
  return lines.flatten

/-! ## Headers -/

/-- A base that is there and not empty, as a header names it. -/
def extendsText : Option String → String
  | some base => if base = "" then "" else " extends " ++ base
  | none => ""

def implementsText (interfaces : List String) : String :=
  if interfaces.isEmpty then "" else " implements " ++ ", ".intercalate interfaces

/-- The keyword, name and bases of a declaration. -/
def header (d : Declaration) : String :=
  match d.body with
  | .classType base interfaces _ _ =>
      "class " ++ d.name ++ extendsText base ++ implementsText interfaces
  | .interfaceType base _ => "interface " ++ d.name ++ extendsText base
  | .enumeration _ => "enum " ++ d.name
  | _ => "namespace " ++ d.name

/-! ## Trees -/

/-- The lines of the members of a declaration. -/
def memberLines (config : Config) (level : Nat) (d : Declaration) :
    Except UnsupportedKind (List String) :=
  let unit := config.output.indentation
  match d.body with
  | .enumeration entries => .ok (entries.flatMap (entryLines unit level))
  | body => do
      let constructors ← methodsLines config level body.constructor?.toList
      let methods ← methodsLines config level body.methods
      return constructors ++ body.properties.flatMap (propertyLines unit level d.kind) ++ methods

/-- The lines of a tree, given those of the shown trees below it. A namespace takes them in; next
to another declaration they stand in a namespace of the same name, when there are any. -/
def treeLines (config : Config) (library : Option String) (level : Nat) (declare : String)
    (d : Declaration) (below : Forest) (inner : List String) :
    Except UnsupportedKind (List String) :=
  let unit := config.output.indentation
  let wrapper :=
    if holdsAny library below then braced unit level (declare ++ "namespace " ++ d.name) inner
    else []
  if owned library d then
    match d.body with
    | .typeAlias => .ok wrapper
    | body => do
        let members ← memberLines config (level + 1) d
        let comment := commentLines unit level d.description
        let opening := declare ++ header d
        match body with
        | .nameSpace _ => return comment ++ braced unit level opening (members ++ inner)
        | _ => return comment ++ braced unit level opening members ++ wrapper
  else .ok wrapper

/-- The lines of the shown trees of a forest that lies below a declaration. -/
def forestLines (config : Config) (library : Option String) (level : Nat) :
    Forest → Except UnsupportedKind (List String)
  | .empty => .ok []
  | .grow d below beside => do
      let inner ← forestLines config library (level + 1) below
      let tree ← treeLines config library level "" d below inner
      let rest ← forestLines config library level beside
      return (if holds library d below then tree else []) ++ rest

/-- The lines of the shown roots, an empty line behind each. -/
def rootLines (config : Config) (library : Option String) :
    Forest → Except UnsupportedKind (List String)
  | .empty => .ok []
  | .grow d below beside => do
      let inner ← forestLines config library 1 below
      let tree ← treeLines config library 0 "declare " d below inner
      let rest ← rootLines config library beside
      return (if holds library d below then tree ++ [""] else []) ++ rest

/-- The definitions of all libraries, or of one. -/
def text (config : Config) (library : Option String) (forest : Forest) :
    Except UnsupportedKind String := do
  let lines ← rootLines config library forest
  return "\n".intercalate lines

/-- The forest as rendering leaves it. -/
def after (config : Config) (library : Option String) (forest : Forest) : Forest :=
  forest.map fun d =>
    if owned library d then d.mapMethods (Method.afterBlocks config) else d

end Definitions
end Typings
