import Typings.Table

/-!
# Configuration of a generator

* `Config`: where documents come from, where declarations go, what is left out and what is
  replaced; each section is a record of its own;
* `NameRule`: how an entry of a list or table names a member, by its full name or as `*.name`.
-/

namespace Typings
namespace Config

/-! ## Sections -/

/-- The local cache of documents. -/
structure Local where
  runLocal : Bool := false
  path : String := "./apis"
deriving DecidableEq

/-- Where declarations are written, and their indentation. -/
structure Output where
  exportsPath : String := "./exports"
  definitionsPath : String := "./declarations"
  indentation : String := "    "
deriving DecidableEq

/-- Where documents are fetched from. -/
structure Input where
  apiBaseUrl : String :=
    "https://openui5.hana.ondemand.com/\x7b\x7bVERSION\x7d\x7d/test-resources"
  jsonLocation : String := "designtime/api.json"
  versions : List String := []
  namespaces : List String := []
deriving DecidableEq

/-- Rules for single members, by full name or by `*.name`. -/
structure MemberRules where
  namespaceAsType : Table String := []
  methodParameterType : Table String := []
  methodReturnType : Table String := []
  propertyType : Table String := []
  methodOverridesNotCompatible : List String := []
  methodRemoveStatic : List String := []
  methodReturnTypeNotThis : List String := []
  filterMethods : List String := []
deriving DecidableEq

/-- What is replaced everywhere, which types are reported, and the rules for single members. -/
structure Replacements where
  everywhere : Table String := []
  warnings : List String := []
  specific : MemberRules := {}
deriving DecidableEq

end Config

/-- The configuration of a generator. -/
structure Config where
  storage : Config.Local := {}
  output : Config.Output := {}
  input : Config.Input := {}
  ignore : List String := []
  ignoreStatic : List String := []
  replacements : Config.Replacements := {}
deriving DecidableEq

/-! ## Names of members -/

namespace NameRule

/-- The entry that names every member called `name`. -/
def wildcard (name : String) : String :=
  "*." ++ name

/-- Whether a list names a member. -/
def names (entries : List String) (fullName name : String) : Bool :=
  entries.contains fullName || entries.contains (wildcard name)

/-- The replacement of a member: the one for its full name unless that is empty, otherwise the
one for every member of its name. -/
def lookup (table : Table String) (fullName name : String) : Option String :=
  match List.lookup fullName table with
  | some replacement =>
      if replacement = "" then List.lookup (wildcard name) table else some replacement
  | none => List.lookup (wildcard name) table

/-- A replacement that is there and not empty. -/
def forced? (table : Table String) (fullName name : String) : Option String :=
  (lookup table fullName name).filter (· ≠ "")

end NameRule
end Typings
