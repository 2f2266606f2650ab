import Typings.Proofs.Tree.Levels
import Typings.Proofs.Tree.Reconciled

/-!
# The structure of a tree

The tree of a set of documents has one node for every symbol that counts and one container for every
name that such a symbol lies in and that is not documented. They are nested by their names.
Reconciliation changes the methods of classes and nothing of the structure.

* `Outlined`: what a tree consists of, where its nodes are, and which classes its hierarchy holds;
* `outlined_of_hung`: declarations and containers that are hung up make such a tree;
* `outlined_ofDocuments`: the tree of documents is one, before reconciliation and after it.
-/

namespace Typings
namespace Tree

variable {config : Config} {documents : List Document} {ignore : List String} {tree : Tree}
  {ds containers : List Declaration} {d : Declaration}

/-- What a tree consists of that declares the symbols `ds`, and how it is nested. -/
structure Outlined (ignore : List String) (ds : List Declaration) (tree : Tree) : Prop where
  /-- The documented nodes are the declared symbols, each of them once. -/
  documented : (tree.forest.walk.filter fun d => !d.isContainer).Perm ds
  /-- The other nodes are containers for the names before the dots of declared names, as far as
  they are not declared themselves. -/
  containers : ∀ name, name ∈ (tree.forest.walk.filter (·.isContainer)).map (·.fullName) ↔
    name ∉ ds.map (·.fullName) ∧ ∃ d ∈ ds, ∃ rest, d.fullName = name ++ "." ++ rest
  /-- No two nodes have the same full name, -/
  distinct : (tree.forest.walk.map (·.fullName)).Nodup
  /-- and none has an ignored one. -/
  kept : ∀ d ∈ tree.forest.walk, Outline.isIgnored ignore d.fullName = false
  /-- Each node is at the end of one path from a root, -/
  ends : tree.forest.paths.map List.getLast? = tree.forest.walk.map some
  /-- which has no other node if and only if the name has no dot. -/
  roots : ∀ path ∈ tree.forest.paths, ∀ d ∈ path.getLast?, path = [d] ↔ '.' ∉ d.fullName.toList
  /-- The node in front of another one has its full name up to the last dot, -/
  parents : ∀ path ∈ tree.forest.paths, path.IsChain fun above d =>
    d.fullName = above.fullName ++ "." ++ d.name ∧ '.' ∉ d.name.toList
  /-- so that the simple names on a path spell the full name. -/
  spelled : ∀ path ∈ tree.forest.paths, ∀ d ∈ path.getLast?,
    ".".intercalate (path.map (·.name)) = d.fullName
  /-- The hierarchy holds the declared classes in order, -/
  classes : tree.hierarchy.classes = ds.filterMap Declaration.class?
  /-- and these are the classes of the tree. -/
  nodes : (tree.forest.walk.filterMap Declaration.class?).Perm tree.hierarchy.classes

/-! ## Declarations and containers -/

theorem isIgnored_of_enclosing {name outer : String}
    (houter : outer ∈ QualifiedName.enclosing name)
    (hkept : Outline.isIgnored ignore name = false) : Outline.isIgnored ignore outer = false := by
  rw [Outline.isIgnored, List.any_eq_false] at hkept ⊢
  intro entry hentry hcovered
  exact hkept entry hentry (QualifiedName.coveredBy_of_enclosing houter hcovered)

theorem class?_of_isContainer (hcontainer : d.isContainer = true) : d.class? = none := by
  rw [Declaration.class?, of_decide_eq_true hcontainer]

theorem isContainer_ofSymbol (replacements : Config.Replacements) (library : String)
    (symbol : Document.Symbol) :
    (Declaration.ofSymbol replacements library symbol).isContainer = false := by
  rw [Declaration.isContainer, decide_eq_false_iff_not, Declaration.ofSymbol, Declaration.bodyOf]
  split <;> simp

/-- Declared symbols with the containers that they need. -/
structure Completed (ignore : List String) (ds containers : List Declaration) : Prop where
  declared : ∀ d ∈ ds, d.isContainer = false
  created : ∀ d ∈ containers, d.isContainer = true
  distinct : (ds.map (·.fullName) ++ containers.map (·.fullName)).Nodup
  names : ∀ name, name ∈ containers.map (·.fullName) ↔
    name ∉ ds.map (·.fullName) ∧ ∃ d ∈ ds, name ∈ QualifiedName.enclosing d.fullName
  kept : ∀ d ∈ ds, Outline.isIgnored ignore d.fullName = false

/-- The documented symbols are completed by the containers that come up with them. -/
theorem completed_documented (config : Config) (documents : List Document) :
    let ds := Outline.documented config documents
    Completed config.ignore ds (Outline.created (ds.map (·.fullName)) ds) := by
  intro ds
  have hnodup : (ds.map (·.fullName)).Nodup := Outline.names_documented config documents
  refine
    { declared := ?declared
      created := fun d hd => decide_eq_true (Outline.body_of_mem_created hd)
      distinct := Outline.nodup_created ds hnodup
      names := fun name => Outline.mem_names_created_iff hnodup
      kept := ?kept }
  case declared =>
    intro d hd
    obtain ⟨entry, _, rfl⟩ := List.mem_map.1 hd
    exact isContainer_ofSymbol _ _ _
  case kept =>
    intro d hd
    obtain ⟨entry, hentry, rfl⟩ := List.mem_map.1 hd
    rw [Outline.kept_eq_counted] at hentry
    exact Outline.isIgnored_of_mem_counted hentry

/-- Changes that keep names and containers keep declarations completed. -/
theorem Completed.map {f : Declaration → Declaration} (hcompleted : Completed ignore ds containers)
    (hname : ∀ d, (f d).fullName = d.fullName)
    (hcontainer : ∀ d, (f d).isContainer = d.isContainer) :
    Completed ignore (ds.map f) (containers.map f) := by
  have hnames : ∀ rest : List Declaration,
      (rest.map f).map (·.fullName) = rest.map (·.fullName) := by
    intro rest
    rw [List.map_map]
    exact List.map_congr_left fun d _ => hname d
  constructor
  case declared =>
    rw [List.forall_mem_map]
    exact fun d hd => (hcontainer d).trans (hcompleted.declared d hd)
  case created =>
    rw [List.forall_mem_map]
    exact fun d hd => (hcontainer d).trans (hcompleted.created d hd)
  case distinct =>
    rw [hnames, hnames]
    exact hcompleted.distinct
  case names =>
    intro name
    rw [hnames, hnames, hcompleted.names name]
    simp only [List.mem_map, exists_exists_and_eq_and, hname]
  case kept =>
    rw [List.forall_mem_map]
    intro d hd
    rw [hname]
    exact hcompleted.kept d hd

/-! ## Hung up declarations -/

/-- A tree with completed declarations hung up, and with their classes in its hierarchy, is as they
outline it. -/
theorem outlined_of_hung (hcompleted : Completed ignore ds containers)
    (hung : Forest.Hung (ds ++ containers) tree.forest)
    (hclasses : tree.hierarchy.classes = ds.filterMap Declaration.class?) :
    Outlined ignore ds tree where
  documented := by
    have hfront : (ds ++ containers).filter (fun d => !d.isContainer) = ds := by
      rw [List.filter_append, List.filter_eq_self.2 fun d hd => by simp [hcompleted.declared d hd],
        List.filter_eq_nil_iff.2 fun d hd => by simp [hcompleted.created d hd], List.append_nil]
    exact (hung.walk.filter _).trans (.of_eq hfront)
  containers := by
    have hback : (ds ++ containers).filter (·.isContainer) = containers := by
      rw [List.filter_append, List.filter_eq_self.2 hcompleted.created,
        List.filter_eq_nil_iff.2 fun d hd => by simp [hcompleted.declared d hd], List.nil_append]
    intro name
    have hwalk := ((hung.walk.filter (·.isContainer)).trans (.of_eq hback)).map (·.fullName)
    rw [hwalk.mem_iff, hcompleted.names name]
    simp only [QualifiedName.mem_enclosing_iff]
  distinct := by
    rw [(hung.walk.map (·.fullName)).nodup_iff, List.map_append]
    exact hcompleted.distinct
  kept := by
    intro d hd
    rcases List.mem_append.1 (hung.walk.mem_iff.1 hd) with hdeclared | hcontainer
    · exact hcompleted.kept d hdeclared
    · -- an entry that covers a container covers what lies in it
      obtain ⟨_, e, he, houter⟩ := (hcompleted.names d.fullName).1 (List.mem_map_of_mem hcontainer)
      exact isIgnored_of_enclosing houter (hcompleted.kept e he)
  ends := Forest.getLast?_paths tree.forest
  roots := fun path hpath d hlast => (hung.nested path hpath).eq_singleton_iff hlast
  parents := fun path hpath => (hung.nested path hpath).step
  spelled := fun path hpath d hlast => (hung.nested path hpath).intercalate hlast
  classes := hclasses
  nodes := by
    have hnone : containers.filterMap Declaration.class? = [] := by
      rw [List.filterMap_eq_nil_iff]
      exact fun d hd => class?_of_isContainer (hcompleted.created d hd)
    have hwalk := hung.walk.filterMap Declaration.class?
    rwa [List.filterMap_append, hnone, List.append_nil, ← hclasses] at hwalk

/-! ## Trees of documents -/

/-- The tree of documents declares the symbols that count and nests them by their names, and so does
the reconciled tree, with the methods that its hierarchy holds. -/
theorem outlined_ofDocuments (config : Config) (documents : List Document) :
    let tree := ofDocuments config documents
    let ds := (Outline.counted config documents).map fun entry =>
      Declaration.ofSymbol config.replacements entry.library entry.symbol
    Outlined config.ignore ds tree ∧
      Outlined config.ignore (ds.map (Declaration.withMethodsFrom tree.reconcile.hierarchy))
        tree.reconcile := by
  intro tree ds
  have hdocumented : Outline.documented config documents = ds := by
    rw [Outline.documented, Outline.kept_eq_counted]
  have hcompleted : Completed config.ignore ds (Outline.created (ds.map (·.fullName)) ds) :=
    hdocumented ▸ completed_documented config documents
  have hung : Forest.Hung (ds ++ Outline.created (ds.map (·.fullName)) ds) tree.forest :=
    hdocumented ▸ hung_ofDocuments config documents
  have hclasses : tree.hierarchy.classes = ds.filterMap Declaration.class? :=
    hdocumented ▸ classes_hierarchy config documents
  refine ⟨outlined_of_hung hcompleted hung hclasses, ?_⟩
  have hname := fullName_withMethodsFrom tree.reconcile.hierarchy
  refine outlined_of_hung (hcompleted.map hname (isContainer_withMethodsFrom _)) ?_ ?_
  · rw [← List.map_append]
    exact hung.map hname
  · exact classes_reconcile (Hierarchy.coherent_ofList _) hclasses

end Tree
end Typings
