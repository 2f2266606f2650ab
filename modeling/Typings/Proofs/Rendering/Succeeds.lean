import Typings.Proofs.Tree.Forest
import Typings.Proofs.Tree.Owners
import Typings.Rendering.Definitions

/-!
# Renderings that succeed

A method has blocks as long as the symbol that it was declared for is a namespace, a class or an
interface. When this is so for all methods of a forest, its definitions can be rendered, of every
library.

* `Succeeds`: a computation that gives a value;
* `Method.succeeds_blocks`: the blocks of a method;
* `Forest.Declarable`, `Tree.declarable_reconcile`: the condition on a forest, which reconciled trees
  meet;
* `Definitions.succeeds_text`: the definitions of a forest.
-/

namespace Typings

/-! ## Computations -/

/-- The computation gives a value. -/
def Succeeds {ε α : Type} (result : Except ε α) : Prop :=
  ∃ value, result = .ok value

section Computations

variable {ε α β : Type}

theorem succeeds_ok (value : α) : Succeeds (.ok value : Except ε α) :=
  ⟨value, rfl⟩

theorem Succeeds.bind {first : Except ε α} {next : α → Except ε β} (h : Succeeds first)
    (hnext : ∀ value, Succeeds (next value)) : Succeeds (first >>= next) := by
  obtain ⟨value, rfl⟩ := h
  exact hnext value

theorem Succeeds.map {result : Except ε α} (h : Succeeds result) (f : α → β) :
    Succeeds (result.map f) := by
  obtain ⟨value, rfl⟩ := h
  exact succeeds_ok (f value)

theorem Succeeds.mapError {ε' : Type} {result : Except ε α} (h : Succeeds result) (f : ε → ε') :
    Succeeds (result.mapError f) := by
  obtain ⟨value, rfl⟩ := h
  exact succeeds_ok value

theorem succeeds_mapM {f : α → Except ε β} {l : List α} (h : ∀ x ∈ l, Succeeds (f x)) :
    Succeeds (l.mapM f) := by
  induction l with
  | nil => exact succeeds_ok []
  | cons x xs ih =>
      obtain ⟨hx, hxs⟩ := List.forall_mem_cons.1 h
      rw [List.mapM_cons]
      exact hx.bind fun _ => (ih hxs).bind fun _ => succeeds_ok _

end Computations

/-! ## Blocks -/

namespace Method

variable {method : Method} (h : method.ownerKind.HasMethods)
include h

theorem succeeds_declarator : Succeeds method.declarator := by
  rw [declarator]
  rcases h with hkind | hkind | hkind <;> rw [hkind] <;> exact succeeds_ok _

theorem succeeds_block (description : String) (parameters : List Parameter) (outcome : Outcome) :
    Succeeds (method.block description parameters outcome) := by
  have hsignature : Succeeds (method.signature parameters outcome.type) :=
    (succeeds_declarator h).bind fun _ => succeeds_ok _
  exact hsignature.bind fun _ => succeeds_ok _

theorem succeeds_compatibilityBlocks (config : Config) :
    Succeeds (method.compatibilityBlocks config) := by
  rw [compatibilityBlocks]
  split
  · exact (succeeds_block h _ _ _).map _
  · exact succeeds_ok _

/-- A method of a symbol of a kind that has methods has blocks. -/
theorem succeeds_blocks (config : Config) : Succeeds (method.blocks config) := by
  rw [blocks]
  split
  · exact succeeds_ok _
  · exact (succeeds_mapM fun _ _ => succeeds_block h _ _ _).bind fun _ =>
      (succeeds_compatibilityBlocks h config).bind fun _ => succeeds_ok _

end Method

/-! ## Definitions -/

/-- Every method of a forest lies in a symbol of a kind that has methods. -/
def Forest.Declarable (forest : Forest) : Prop :=
  ∀ d ∈ forest.walk, ∀ method ∈ d.callables, method.ownerKind.HasMethods

theorem Forest.declarable_grow {d : Declaration} {below beside : Forest} :
    (Forest.grow d below beside).Declarable ↔
      (∀ method ∈ d.callables, method.ownerKind.HasMethods) ∧ below.Declarable ∧
        beside.Declarable := by
  rw [Declarable, walk_grow, List.forall_mem_cons, List.forall_mem_append]
  rfl

/-- In a reconciled tree every method can be declared. -/
theorem Tree.declarable_reconcile (config : Config) (documents : List Document) :
    (ofDocuments config documents).reconcile.forest.Declarable := by
  intro d hd method hmethod
  rw [ownsMethods_reconcile hd method hmethod]
  exact Declaration.hasMethods_of_mem_callables hmethod

namespace Definitions

variable {d : Declaration}

theorem succeeds_methodsLines (config : Config) (level : Nat) {methods : List Method}
    (h : ∀ method ∈ methods, method.ownerKind.HasMethods) :
    Succeeds (methodsLines config level methods) := by
  have hlines : ∀ method ∈ methods, Succeeds (methodLines config level method) :=
    fun method hmem => (Method.succeeds_blocks (h method hmem) config).bind fun _ => succeeds_ok _
  exact (succeeds_mapM hlines).bind fun _ => succeeds_ok _

theorem succeeds_memberLines (config : Config) (level : Nat)
    (h : ∀ method ∈ d.callables, method.ownerKind.HasMethods) :
    Succeeds (memberLines config level d) := by
  obtain ⟨hmethods, hconstructor⟩ := List.forall_mem_append.1 h
  have hmembers := (succeeds_methodsLines config level hconstructor).bind fun constructors =>
    (succeeds_methodsLines config level hmethods).bind fun methods =>
      succeeds_ok (ε := UnsupportedKind) (constructors ++
        d.body.properties.flatMap
          (propertyLines config.output.indentation level d.kind) ++ methods)
  rw [memberLines]
  split
  · exact succeeds_ok _
  · exact hmembers

theorem succeeds_treeLines (config : Config) (library : Option String) (level : Nat)
    (declare : String) (below : Forest) (inner : List String)
    (h : ∀ method ∈ d.callables, method.ownerKind.HasMethods) :
    Succeeds (treeLines config library level declare d below inner) := by
  have hmembers := succeeds_memberLines config (level + 1) h
  rw [treeLines]
  split
  · split
    · exact succeeds_ok _
    · refine hmembers.bind fun members => ?_
      split
      · exact succeeds_ok _
      · exact succeeds_ok _
  · exact succeeds_ok _

theorem succeeds_forestLines (config : Config) (library : Option String) (level : Nat)
    {forest : Forest} (h : forest.Declarable) :
    Succeeds (forestLines config library level forest) := by
  induction forest generalizing level with
  | empty => exact succeeds_ok _
  | grow d below beside ihbelow ihbeside =>
      obtain ⟨hd, hbelow, hbeside⟩ := Forest.declarable_grow.1 h
      rw [forestLines]
      exact (ihbelow (level + 1) hbelow).bind fun inner =>
        (succeeds_treeLines config library level "" below inner hd).bind fun _ =>
          (ihbeside level hbeside).bind fun _ => succeeds_ok _

theorem succeeds_rootLines (config : Config) (library : Option String) {forest : Forest}
    (h : forest.Declarable) :
    Succeeds (rootLines config library forest) := by
  induction forest with
  | empty => exact succeeds_ok _
  | grow d below beside _ ihbeside =>
      obtain ⟨hd, hbelow, hbeside⟩ := Forest.declarable_grow.1 h
      rw [rootLines]
      exact (succeeds_forestLines config library 1 hbelow).bind fun inner =>
        (succeeds_treeLines config library 0 "declare " below inner hd).bind fun _ =>
          (ihbeside hbeside).bind fun _ => succeeds_ok _

/-- A forest whose methods all have blocks has definitions. -/
theorem succeeds_text (config : Config) (library : Option String) {forest : Forest}
    (h : forest.Declarable) :
    Succeeds (text config library forest) :=
  (succeeds_rootLines config library h).bind fun _ => succeeds_ok _

end Definitions
end Typings
