import Typings.Proofs.Rendering.Pruning
import Typings.Proofs.Tree.Plain

/-!
# Changes of methods that no definitions show

Definitions show a method by its blocks and look at nothing else of it. So a change of methods makes
no difference to the definitions of a library when it keeps the blocks of the methods that these
definitions show.

* `Definitions.memberLines_mapMethods`, `Definitions.treeLines_mapMethods`: the lines of one
  declaration;
* `Definitions.text_mapMethods`: the definitions of a library.
-/

namespace Typings
namespace Definitions

variable {config : Config} {library : Option String} {d : Declaration} {forest : Forest}
  {f : Method → Method} {change : Declaration → Method → Method}

/-! ## What is shown -/

theorem owned_mapMethods (f : Method → Method) (d : Declaration) :
    owned library (d.mapMethods f) = owned library d := by
  rw [owned, isContainer_mapMethods, owned]
  rfl

theorem holdsAny_mapMethods (change : Declaration → Method → Method) (forest : Forest) :
    holdsAny library (forest.map fun d => d.mapMethods (change d)) = holdsAny library forest := by
  induction forest with
  | empty => rfl
  | grow d below beside ihbelow ihbeside =>
      rw [Forest.map, holdsAny, ihbelow, ihbeside, owned_mapMethods, holdsAny]

theorem holds_mapMethods (f : Method → Method) (change : Declaration → Method → Method)
    (d : Declaration) (below : Forest) :
    holds library (d.mapMethods f) (below.map fun d => d.mapMethods (change d)) =
      holds library d below := by
  rw [holds, owned_mapMethods, holdsAny_mapMethods, holds]

theorem header_mapMethods (f : Method → Method) (d : Declaration) :
    header (d.mapMethods f) = header d := by
  rw [header, Declaration.mapMethods, header]
  cases d.body <;> rfl

/-! ## Lines of one declaration -/

theorem methodsLines_map (level : Nat) {methods : List Method}
    (h : ∀ method ∈ methods, (f method).blocks config = method.blocks config) :
    methodsLines config level (methods.map f) = methodsLines config level methods := by
  have hlines : (methods.map f).mapM (methodLines config level) =
      methods.mapM (methodLines config level) := by
    induction methods with
    | nil => rfl
    | cons method rest ih =>
        obtain ⟨hfirst, hrest⟩ := List.forall_mem_cons.1 h
        rw [List.map_cons, List.mapM_cons, List.mapM_cons, ih hrest, methodLines, hfirst,
          methodLines]
  rw [methodsLines, hlines, methodsLines]

/-- The members of everything but an enumeration are its constructor, properties and methods. -/
theorem memberLines_of_kind_ne (level : Nat) (h : d.kind ≠ .enumeration) :
    memberLines config level d = do
      let constructors ← methodsLines config level d.body.constructor?.toList
      let methods ← methodsLines config level d.body.methods
      return constructors ++ d.body.properties.flatMap
        (propertyLines config.output.indentation level d.kind) ++ methods := by
  rcases d with ⟨fullName, library, moduleName, description, body⟩
  cases body with
  | enumeration entries => exact absurd rfl h
  | _ => rfl

theorem memberLines_mapMethods (level : Nat)
    (h : ∀ method ∈ d.callables, (f method).blocks config = method.blocks config) :
    memberLines config level (d.mapMethods f) = memberLines config level d := by
  by_cases hkind : d.kind = .enumeration
  · rcases d with ⟨fullName, library, moduleName, description, body⟩
    cases body with
    | enumeration entries => rfl
    | _ => cases hkind
  · have hmethods : ∀ method ∈ d.body.methods, (f method).blocks config = method.blocks config :=
      fun method hmem => h method (List.mem_append_left _ hmem)
    have hconstructor : ∀ method ∈ d.body.constructor?.toList,
        (f method).blocks config = method.blocks config :=
      fun method hmem => h method (List.mem_append_right _ hmem)
    have hsame : (d.mapMethods f).kind = d.kind := d.body.kind_mapMethods f
    rw [memberLines_of_kind_ne level hkind, memberLines_of_kind_ne level (hsame ▸ hkind), hsame,
      Declaration.mapMethods, Body.constructor?_mapMethods, Option.toList_map,
      Body.methods_mapMethods, Body.properties_mapMethods, methodsLines_map level hmethods,
      methodsLines_map level hconstructor]

/-- The lines of a tree show the methods of its declaration when this one belongs to the library. -/
theorem treeLines_mapMethods {below changed : Forest} (level : Nat) (declare : String)
    (inner : List String) (hbelow : holdsAny library changed = holdsAny library below)
    (h : owned library d = true →
      ∀ method ∈ d.callables, (f method).blocks config = method.blocks config) :
    treeLines config library level declare (d.mapMethods f) changed inner =
      treeLines config library level declare d below inner := by
  rw [treeLines, owned_mapMethods, hbelow, header_mapMethods, treeLines]
  cases howned : owned library d with
  | false => rfl
  | true =>
      rw [memberLines_mapMethods (level + 1) (h howned)]
      rcases d with ⟨fullName, library, moduleName, description, body⟩
      cases body <;> rfl

/-! ## Definitions of a library -/

/-- The change keeps the blocks of all methods that the definitions of a library show. -/
def KeepsBlocks (config : Config) (library : Option String)
    (change : Declaration → Method → Method) (forest : Forest) : Prop :=
  ∀ d ∈ forest.walk, owned library d = true →
    ∀ method ∈ d.callables, (change d method).blocks config = method.blocks config

theorem keepsBlocks_grow {below beside : Forest}
    (h : KeepsBlocks config library change (.grow d below beside)) :
    (owned library d = true →
        ∀ method ∈ d.callables, (change d method).blocks config = method.blocks config) ∧
      KeepsBlocks config library change below ∧ KeepsBlocks config library change beside := by
  rw [KeepsBlocks, Forest.walk_grow, List.forall_mem_cons, List.forall_mem_append] at h
  exact h

theorem forestLines_mapMethods (level : Nat) (h : KeepsBlocks config library change forest) :
    forestLines config library level (forest.map fun d => d.mapMethods (change d)) =
      forestLines config library level forest := by
  induction forest generalizing level with
  | empty => rfl
  | grow d below beside ihbelow ihbeside =>
      obtain ⟨hd, hbelow, hbeside⟩ := keepsBlocks_grow h
      have htree : ∀ inner, treeLines config library level "" (d.mapMethods (change d))
          (below.map fun d => d.mapMethods (change d)) inner =
            treeLines config library level "" d below inner :=
        fun inner => treeLines_mapMethods level "" inner (holdsAny_mapMethods change below) hd
      simp only [Forest.map, forestLines, ihbelow _ hbelow, ihbeside _ hbeside, htree,
        holds_mapMethods]

theorem rootLines_mapMethods (h : KeepsBlocks config library change forest) :
    rootLines config library (forest.map fun d => d.mapMethods (change d)) =
      rootLines config library forest := by
  induction forest with
  | empty => rfl
  | grow d below beside _ ihbeside =>
      obtain ⟨hd, hbelow, hbeside⟩ := keepsBlocks_grow h
      have htree : ∀ inner, treeLines config library 0 "declare " (d.mapMethods (change d))
          (below.map fun d => d.mapMethods (change d)) inner =
            treeLines config library 0 "declare " d below inner :=
        fun inner => treeLines_mapMethods 0 "declare " inner (holdsAny_mapMethods change below) hd
      simp only [Forest.map, rootLines, forestLines_mapMethods 1 hbelow, ihbeside hbeside, htree,
        holds_mapMethods]

/-- The definitions of a library are the same after a change that keeps the blocks of the methods
which they show. -/
theorem text_mapMethods (h : KeepsBlocks config library change forest) :
    text config library (forest.map fun d => d.mapMethods (change d)) =
      text config library forest := by
  rw [text, rootLines_mapMethods h, text]

end Definitions
end Typings
