import Typings.Tree.Forest
import Typings.Hierarchy.Override

/-!
# The tree of a set of documents

Symbols are nested by their dotted names.

* `Outline.kept`: the documented symbols that count, with their libraries: the first one of each
  name that the configuration does not ignore;
* `Outline.declarations`: their declarations in order, each with the containers missing so far in
  front of it;
* `Tree.ofDocuments`: the forest of these declarations, hung up level by level, with the hierarchy
  of its classes;
* `Tree.reconcile`: the tree with the overriding methods of its classes settled.
-/

namespace Typings

/-- A documented symbol with the library of its document. -/
structure LocatedSymbol where
  library : String
  symbol : Document.Symbol
deriving DecidableEq

namespace Outline

/-! ## Symbols that count -/

def isIgnored (ignore : List String) (name : String) : Bool :=
  ignore.any fun entry => QualifiedName.coveredBy name entry

/-- The symbols of all documents in order. -/
def located (documents : List Document) : List LocatedSymbol :=
  documents.flatMap fun document =>
    document.symbols.map fun symbol => ⟨document.library, symbol⟩

/-- The symbols that are not ignored and whose names are neither in `seen` nor repeated. -/
def keptFrom (ignore : List String) : List String → List LocatedSymbol → List LocatedSymbol
  | _, [] => []
  | seen, entry :: rest =>
      let name := entry.symbol.heading.name
      if isIgnored ignore name || seen.contains name then keptFrom ignore seen rest
      else entry :: keptFrom ignore (name :: seen) rest

def kept (config : Config) (documents : List Document) : List LocatedSymbol :=
  keptFrom config.ignore [] (located documents)

/-- The reports of a pass over the symbols, with the names seen so far. -/
def warningsFrom (config : Config) : List String → List LocatedSymbol → List Warning
  | _, [] => []
  | seen, entry :: rest =>
      let name := entry.symbol.heading.name
      if isIgnored config.ignore name then warningsFrom config seen rest
      else if seen.contains name then
        .repeatedSymbol name entry.library :: warningsFrom config seen rest
      else
        Declaration.warnings config.replacements entry.symbol ++
          warningsFrom config (name :: seen) rest

/-! ## Declarations -/

/-- The containers that a name needs and that have no declaration yet, outermost first. Only the
innermost missing ones are new: above the first name that is declared, nothing is missing. -/
def missingContainers (declared : List String) (d : Declaration) : List Declaration :=
  (((QualifiedName.enclosing d.fullName).takeWhile fun name => !declared.contains name).map
    fun name => .containerFor name d.library).reverse

/-- The declarations in order, each behind the containers that are missing for it. -/
def withContainers (declared : List String) : List Declaration → List Declaration
  | [] => []
  | d :: rest =>
      let missing := missingContainers declared d
      missing ++ d :: withContainers (declared ++ missing.map (·.fullName)) rest

/-- The declarations of the symbols that count, in order. -/
def documented (config : Config) (documents : List Document) : List Declaration :=
  (kept config documents).map fun entry =>
    Declaration.ofSymbol config.replacements entry.library entry.symbol

/-- All declarations of a tree in the order in which they are hung up among their siblings. -/
def declarations (config : Config) (documents : List Document) : List Declaration :=
  let ds := documented config documents
  withContainers (ds.map (·.fullName)) ds

/-- The declarations by the number of dots in their names, in order within each number. -/
def byLevel (ds : List Declaration) : List Declaration :=
  let levels := ((ds.map fun d => QualifiedName.depth d.fullName).max?.getD 0) + 1
  (List.range levels).flatMap fun level =>
    ds.filter fun d => QualifiedName.depth d.fullName = level

end Outline

/-! ## Trees -/

/-- The forest of declarations, the hierarchy of its classes and the configuration of both. -/
structure Tree where
  forest : Forest
  hierarchy : Hierarchy
  config : Config
deriving DecidableEq

namespace Tree

def ofDocuments (config : Config) (documents : List Document) : Tree where
  forest := (Outline.byLevel (Outline.declarations config documents)).foldl Forest.hang .empty
  hierarchy := .ofList ((Outline.documented config documents).filterMap Declaration.class?)
  config := config

/-- The reports that building the tree makes. -/
def warnings (config : Config) (documents : List Document) : List Warning :=
  Outline.warningsFrom config [] (Outline.located documents)

/-- The tree with the overriding methods settled, in the hierarchy and in the forest. -/
def reconcile (tree : Tree) : Tree :=
  let settled := tree.hierarchy.reconcile tree.config.replacements.specific
  { tree with
    hierarchy := settled
    forest := tree.forest.map (Declaration.withMethodsFrom settled) }

/-- The number of documented declarations. -/
def symbolCount (tree : Tree) : Nat :=
  tree.forest.walk.countP fun d => !d.isContainer

end Tree
end Typings
