import Typings.Proofs.Rendering.Emission
import Typings.Proofs.Tree.Forest
import Typings.Proofs.Tree.Places

/-!
# Operations on a session

A reconciled session is rendered, its exports are made, its methods are looked up and emitted, by
their names or at their places, in any order and as often as one likes. What is left of the tree
depends only on how many times each of its methods was emitted.

* `Session.Operation`, `Session.afterAll`: the operations, and the session after a run of them;
* `Session.Operation.emits`: whether an operation emits the method at a place;
* `Forest.emitted`: a forest whose methods were emitted, each of them a number of times;
* `Session.afterAll_reconciled`: the session after a run of operations, in closed form.
-/

namespace Typings

/-! ## Methods emitted -/

namespace Declaration

/-- The declaration with its methods emitted, each of them a number of times. -/
def emitted (config : Config) (count : Nat → Nat) (d : Declaration) : Declaration :=
  d.mapPlaces fun place => (Method.afterBlocks config)^[count place]

theorem callables_emitted (config : Config) (count : Nat → Nat) (d : Declaration) :
    (d.emitted config count).callables =
      d.callables.mapIdx fun place => (Method.afterBlocks config)^[count place] :=
  callables_mapPlaces _ d

theorem fullName_emitted (config : Config) (count : Nat → Nat) (d : Declaration) :
    (d.emitted config count).fullName = d.fullName := rfl

theorem kind_emitted (config : Config) (count : Nat → Nat) (d : Declaration) :
    (d.emitted config count).kind = d.kind :=
  kind_mapPlaces _ d

theorem owned_emitted (library : Option String) (config : Config) (count : Nat → Nat)
    (d : Declaration) :
    Definitions.owned library (d.emitted config count) = Definitions.owned library d := by
  rw [Definitions.owned, emitted, isContainer_mapPlaces]
  rfl

/-- Emitting keeps the names of the methods. -/
theorem names_emitted (config : Config) (count : Nat → Nat) (d : Declaration) :
    (d.emitted config count).callables.map (·.fullName) = d.callables.map (·.fullName) := by
  rw [callables_emitted]
  refine List.ext_getElem? fun place => ?_
  rw [List.getElem?_map, List.getElem?_mapIdx, Option.map_map, List.getElem?_map]
  refine congrArg (Option.map · d.callables[place]?) (funext fun method => ?_)
  exact (Method.widenedTo_iterate config method (count place)).fullName_eq

theorem place_emitted (fullName : String) (config : Config) (count : Nat → Nat)
    (d : Declaration) : (d.emitted config count).place fullName = d.place fullName := by
  have hplace : ∀ d : Declaration,
      d.place fullName = (d.callables.map (·.fullName)).findIdx (· = fullName) := by
    intro d
    rw [List.findIdx_map]
    rfl
  rw [hplace, hplace, names_emitted]

theorem declares_emitted (fullName : String) (config : Config) (count : Nat → Nat)
    (d : Declaration) :
    Forest.declares fullName (d.emitted config count) = Forest.declares fullName d := by
  have hdeclares : ∀ d : Declaration,
      Forest.declares fullName d = (d.callables.map (·.fullName)).any (· = fullName) := by
    intro d
    rw [List.any_map]
    rfl
  rw [hdeclares, hdeclares, names_emitted]

theorem emitted_of_never {count : Nat → Nat} (hnever : ∀ place, count place = 0)
    (config : Config) (d : Declaration) : d.emitted config count = d := by
  refine mapPlaces_self fun place method _ => ?_
  rw [hnever, Function.iterate_zero_apply]

theorem emitted_emitted (config : Config) (count more : Nat → Nat) (d : Declaration) :
    (d.emitted config count).emitted config more =
      d.emitted config fun place => count place + more place := by
  rw [emitted, emitted, mapPlaces_mapPlaces, emitted]
  refine congrArg (fun f => d.mapPlaces f) (funext fun place => ?_)
  rw [← Function.iterate_add, Nat.add_comm]

end Declaration

namespace Forest

/-- The forest with the methods of its declarations emitted, each of them a number of times. -/
def emitted (config : Config) (count : Declaration → Nat → Nat) (forest : Forest) : Forest :=
  forest.map fun d => d.emitted config (count d)

/-- The declaration that the first method of a full name belongs to. -/
def owner? (fullName : String) (forest : Forest) : Option String :=
  (forest.walk.find? (declares fullName)).map (·.fullName)

theorem walk_emitted (config : Config) (count : Declaration → Nat → Nat) (forest : Forest) :
    (forest.emitted config count).walk = forest.walk.map fun d => d.emitted config (count d) :=
  walk_map _ forest

theorem owner?_emitted (fullName : String) (config : Config) (count : Declaration → Nat → Nat)
    (forest : Forest) : (forest.emitted config count).owner? fullName = forest.owner? fullName := by
  have hdeclares :
      (declares fullName ∘ fun d => d.emitted config (count d)) = declares fullName :=
    funext fun d => Declaration.declares_emitted fullName config (count d) d
  rw [owner?, walk_emitted, List.find?_map, hdeclares, Option.map_map, owner?]
  rfl

/-- A forest without emissions is as it was. -/
theorem emitted_zero (config : Config) (forest : Forest) :
    forest.emitted config (fun _ _ => 0) = forest := by
  have hself : (fun d : Declaration => d.emitted config fun _ => 0) = id :=
    funext (Declaration.emitted_of_never (fun _ => rfl) config)
  rw [emitted, hself, map_id]

theorem emitted_emitted (config : Config) (count more : Declaration → Nat → Nat)
    (forest : Forest) :
    (forest.emitted config count).emitted config more =
      forest.emitted config fun d place =>
        count d place + more (d.emitted config (count d)) place := by
  rw [emitted, emitted, map_map]
  refine congrArg forest.map (funext fun d => ?_)
  exact Declaration.emitted_emitted config (count d) (more (d.emitted config (count d))) d

/-- Rendering the definitions emits the methods of what they show. -/
theorem after_eq_emitted (library : Option String) (config : Config) (forest : Forest) :
    Definitions.after config library forest =
      forest.emitted config fun d _ => if Definitions.owned library d then 1 else 0 := by
  refine map_congr fun d _ => ?_
  show (if Definitions.owned library d then d.mapMethods (Method.afterBlocks config) else d) =
    d.mapPlaces fun _ => (Method.afterBlocks config)^[if Definitions.owned library d then 1 else 0]
  cases Definitions.owned library d with
  | true => exact Declaration.mapMethods_eq_mapPlaces (Method.afterBlocks config) d
  | false => exact (Declaration.mapPlaces_self (f := fun _ => id) fun _ _ _ => rfl).symm

/-- The forest after the blocks of one method of a declaration were made, the one at a place. -/
def emitAt (config : Config) (owner : String) (place : Declaration → Nat) (forest : Forest) :
    Forest :=
  forest.map fun d =>
    if d.fullName = owner then
      d.mapPlaces fun other method =>
        if other = place d then method.afterBlocks config else method
    else d

theorem emitAt_eq_emitted (config : Config) (owner : String) (place : Declaration → Nat)
    (forest : Forest) :
    forest.emitAt config owner place =
      forest.emitted config fun d other =>
        if d.fullName = owner && other = place d then 1 else 0 := by
  refine map_congr fun d _ => ?_
  rw [Declaration.emitted]
  split
  case isTrue howner =>
    refine Declaration.mapPlaces_congr fun other method _ => ?_
    by_cases hplace : other = place d
    · simp [howner, hplace]
    · simp [hplace]
  case isFalse howner =>
    refine (Declaration.mapPlaces_self fun other method _ => ?_).symm
    simp [howner]

/-- Emitting the first method of a name is emitting it at its place. -/
theorem modifyMethod_eq_emitted (fullName : String) (config : Config) (forest : Forest) :
    forest.modifyMethod fullName (Method.afterBlocks config) =
      forest.emitted config fun d place =>
        if forest.owner? fullName = some d.fullName && place = d.place fullName then 1 else 0 := by
  rw [modifyMethod, ← owner?]
  cases forest.owner? fullName with
  | none => exact (emitted_zero config forest).symm
  | some owner =>
      simp only [Declaration.modifyMethod_eq_mapPlaces, Option.some.injEq, eq_comm (a := owner)]
      exact emitAt_eq_emitted config owner (Declaration.place fullName) forest

end Forest

/-- The tree with the methods of its forest emitted, each of them a number of times. -/
def Tree.emitted (count : Declaration → Nat → Nat) (tree : Tree) : Tree :=
  { tree with forest := tree.forest.emitted tree.config count }

theorem Tree.emitted_zero (tree : Tree) : tree.emitted (fun _ _ => 0) = tree :=
  congrArg (fun forest => { tree with forest }) (Forest.emitted_zero tree.config tree.forest)

theorem Tree.emitted_emitted (count more : Declaration → Nat → Nat) (tree : Tree) :
    (tree.emitted count).emitted more = tree.emitted fun d place =>
      count d place + more (d.emitted tree.config (count d)) place :=
  congrArg (fun forest => { tree with forest })
    (Forest.emitted_emitted tree.config count more tree.forest)

/-! ## Operations -/

namespace Session

/-- What can be done with a reconciled session. A method is emitted by its name, when it is the first
one of that name, or at a place of the declaration that it belongs to. -/
inductive Operation where
  | definitions (library : Option String)
  | exports (library : Option String)
  | find (fullName : String)
  | emit (fullName : String)
  | emitAt (owner : String) (place : Nat)
deriving DecidableEq, Repr

/-- Whether an operation emits the method at a place of a declaration. -/
def Operation.emits (forest : Forest) (d : Declaration) (place : Nat) : Operation → Bool
  | .definitions library => Definitions.owned library d
  | .emit fullName => forest.owner? fullName = some d.fullName && place = d.place fullName
  | .emitAt owner other => d.fullName = owner && place = other
  | .exports _ | .find _ => false

/-- The session after the blocks of the method at a place of a declaration were made. -/
def afterEmitAt (session : Session) (owner : String) (place : Nat) : Session :=
  match session with
  | .draft tree => .draft tree
  | .reconciled tree =>
      .reconciled
        { tree with forest := tree.forest.emitAt tree.config owner fun _ => place }

/-- The session that an operation leaves behind. -/
def afterOperation (session : Session) : Operation → Session
  | .definitions library => session.afterDefinitions library
  | .emit fullName => session.afterEmit fullName
  | .emitAt owner place => session.afterEmitAt owner place
  | .exports _ | .find _ => session

/-- The session after operations in order. -/
def afterAll (session : Session) (operations : List Operation) : Session :=
  operations.foldl afterOperation session

theorem afterAll_append (session : Session) (operations more : List Operation) :
    session.afterAll (operations ++ more) = (session.afterAll operations).afterAll more :=
  List.foldl_append ..

theorem afterAll_cons (session : Session) (operation : Operation) (operations : List Operation) :
    session.afterAll (operation :: operations) =
      (session.afterOperation operation).afterAll operations := rfl

/-- An operation emits each method once or not at all. -/
theorem afterOperation_reconciled (tree : Tree) (operation : Operation) :
    (reconciled tree).afterOperation operation =
      .reconciled (tree.emitted fun d place =>
        if operation.emits tree.forest d place then 1 else 0) := by
  cases operation with
  | definitions library =>
      exact congrArg (fun forest => reconciled { tree with forest })
        (Forest.after_eq_emitted library tree.config tree.forest)
  | emit fullName =>
      exact congrArg (fun forest => reconciled { tree with forest })
        (Forest.modifyMethod_eq_emitted fullName tree.config tree.forest)
  | emitAt owner place =>
      exact congrArg (fun forest => reconciled { tree with forest })
        (Forest.emitAt_eq_emitted tree.config owner (fun _ => place) tree.forest)
  | exports _ | find _ => exact congrArg reconciled tree.emitted_zero.symm

/-- What an operation emits is told by names, which emitting keeps. -/
theorem Operation.emits_emitted (operation : Operation) (config : Config)
    (count : Declaration → Nat → Nat) (forest : Forest) (d : Declaration) (place : Nat) :
    operation.emits (forest.emitted config count) (d.emitted config (count d)) place =
      operation.emits forest d place := by
  cases operation with
  | definitions library => exact Declaration.owned_emitted library config (count d) d
  | emit fullName =>
      rw [emits, Forest.owner?_emitted, Declaration.place_emitted, Declaration.fullName_emitted,
        emits]
  | emitAt owner other => rw [emits, Declaration.fullName_emitted, emits]
  | exports _ | find _ => rfl

/-- A run of operations leaves every method as it is after as many emissions as there are operations
in the run that emit it. -/
theorem afterAll_reconciled (tree : Tree) (operations : List Operation) :
    (reconciled tree).afterAll operations =
      .reconciled (tree.emitted fun d place =>
        operations.countP (·.emits tree.forest d place)) := by
  induction operations using List.reverseRecOn with
  | nil => exact congrArg reconciled tree.emitted_zero.symm
  | append_singleton operations operation ih =>
      rw [afterAll_append, ih, afterAll_cons, afterOperation_reconciled, Tree.emitted_emitted]
      refine congrArg (fun count => reconciled (tree.emitted count))
        (funext fun d => funext fun place => ?_)
      -- after the emissions so far the operation emits what it would have emitted at first
      have hsame := operation.emits_emitted tree.config
        (fun d place => operations.countP (·.emits tree.forest d place)) tree.forest d place
      rw [List.countP_append, List.countP_singleton, ← hsame]
      rfl

end Session
end Typings
