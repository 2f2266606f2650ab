import Mathlib.Algebra.Ring.Nat
import Typings.Proofs.Rendering.Plain
import Typings.Proofs.Rendering.Pruning
import Typings.Proofs.Session.Operations

/-!
# Sessions that come to rest

Operations on a reconciled session change nothing but the types of parameters. Every change settles
an unrelated pair at the end of some parameter list, so that there are no more changes than pairs,
and the definitions of a library stay as they are once each of its methods was emitted often enough.

* `Tree.WidenedTo`: the changes that operations make to a tree;
* `Forest.openPairs`, `Session.changes_le`: a bound on the number of changes;
* `Session.definitions_atRest`: the definitions of methods at rest;
* `Session.exports_afterAll`: the exports, which never change;
* `Session.afterAll_settles`: what any run of operations makes of a session.
-/

namespace Typings

/-! ## Changes of a tree -/

/-- The other tree is this one with parameters widened in the lists of its methods. -/
def Tree.WidenedTo (tree other : Tree) : Prop :=
  ∃ change : Declaration → Nat → Method → Method,
    other = { tree with forest := tree.forest.map fun d => d.mapPlaces (change d) } ∧
      ∀ d ∈ tree.forest.walk, ∀ place method, d.callables[place]? = some method →
        Method.WidenedTo method (change d place method)

theorem Tree.widenedTo_emitted (tree : Tree) (count : Declaration → Nat → Nat) :
    tree.WidenedTo (tree.emitted count) := by
  refine ⟨fun d place => (Method.afterBlocks tree.config)^[count d place], rfl, ?_⟩
  exact fun d _ place method _ => Method.widenedTo_iterate tree.config method (count d place)

/-! ## Pairs that are left -/

/-- Changes that lower a measure wherever they do something do nothing or lower the sum. -/
theorem mapIdx_eq_or_sum_lt {α : Type} (measure : α → Nat) {f : Nat → α → α} {l : List α}
    (h : ∀ place x, l[place]? = some x → f place x = x ∨ measure (f place x) < measure x) :
    (∀ place x, l[place]? = some x → f place x = x) ∨
      ((l.mapIdx f).map measure).sum < (l.map measure).sum := by
  induction l generalizing f with
  | nil => exact .inl fun place x hx => by cases hx
  | cons first rest ih =>
      have hrest := ih (f := fun place => f (place + 1)) fun place x hx => h (place + 1) x hx
      simp only [List.mapIdx_cons, List.map_cons, List.sum_cons]
      rcases h 0 first rfl with hfirst | hfirst
      · rcases hrest with hrest | hrest
        · left
          intro place x hx
          cases place with
          | zero =>
              cases hx
              exact hfirst
          | succ place => exact hrest place x hx
        · rw [hfirst]
          exact .inr (Nat.add_lt_add_left hrest _)
      · right
        rcases hrest with hrest | hrest
        · rw [mapIdx_eq_self hrest]
          exact Nat.add_lt_add_right hfirst _
        · exact Nat.add_lt_add hfirst hrest

/-- The number of pairs that emissions of the methods of a declaration have not settled yet. -/
def Declaration.openPairs (d : Declaration) : Nat :=
  (d.callables.map Method.openPairs).sum

theorem Declaration.emitted_eq_or_lt (config : Config) (count : Nat → Nat) (d : Declaration) :
    d.emitted config count = d ∨ (d.emitted config count).openPairs < d.openPairs := by
  rw [openPairs, openPairs, callables_emitted]
  refine (mapIdx_eq_or_sum_lt Method.openPairs fun place method _ => ?_).imp_left mapPlaces_self
  exact Method.iterate_eq_or_lt config method (count place)

/-- The number of pairs that emissions of the methods of a forest have not settled yet. -/
def Forest.openPairs (forest : Forest) : Nat :=
  (forest.walk.map Declaration.openPairs).sum

theorem Forest.emitted_eq_or_lt (config : Config) (count : Declaration → Nat → Nat)
    (forest : Forest) :
    forest.emitted config count = forest ∨
      (forest.emitted config count).openPairs < forest.openPairs := by
  rw [openPairs, openPairs, walk_emitted, ← mapIdx_const]
  refine (mapIdx_eq_or_sum_lt Declaration.openPairs fun _ d _ => ?_).imp_left fun hsame => ?_
  · exact Declaration.emitted_eq_or_lt config (count d) d
  · refine (map_congr fun d hd => ?_).trans (map_id forest)
    obtain ⟨place, hplace⟩ := List.mem_iff_getElem?.1 hd
    exact hsame place d hplace

theorem Tree.emitted_eq_or_lt (count : Declaration → Nat → Nat) (tree : Tree) :
    tree.emitted count = tree ∨
      (tree.emitted count).forest.openPairs < tree.forest.openPairs :=
  (Forest.emitted_eq_or_lt tree.config count tree.forest).imp_left
    (congrArg fun forest => { tree with forest })

namespace Session

/-- The number of operations in a run that change the session. -/
def changes (session : Session) : List Operation → Nat
  | [] => 0
  | operation :: operations =>
      (if session.afterOperation operation = session then 0 else 1) +
        changes (session.afterOperation operation) operations

/-- Every change settles a pair. -/
theorem changes_le (tree : Tree) (operations : List Operation) :
    (reconciled tree).changes operations ≤ tree.forest.openPairs := by
  induction operations generalizing tree with
  | nil => exact Nat.zero_le _
  | cons operation operations ih =>
      rw [changes, afterOperation_reconciled]
      have hrest := ih (tree.emitted fun d place =>
        if operation.emits tree.forest d place then 1 else 0)
      rcases tree.emitted_eq_or_lt fun d place =>
        if operation.emits tree.forest d place then 1 else 0 with hsame | hlt
      · rw [if_pos (congrArg reconciled hsame), Nat.zero_add]
        rwa [hsame] at hrest ⊢
      · calc
          _ ≤ 1 + (tree.emitted _).forest.openPairs := Nat.add_le_add (by split <;> omega) hrest
          _ ≤ tree.forest.openPairs := by omega

end Session

/-! ## Rest -/

/-- Emitting the methods of a declaration changes none of them. -/
def Declaration.AtRest (config : Config) (d : Declaration) : Prop :=
  ∀ method ∈ d.callables, method.afterBlocks config = method

theorem Declaration.AtRest.emitted {config : Config} {d : Declaration} (h : d.AtRest config)
    (count : Nat → Nat) : d.emitted config count = d :=
  mapPlaces_self fun _ method hmethod =>
    Function.iterate_fixed (h method (List.mem_of_getElem? hmethod)) _

theorem Declaration.atRest_of_isContainer {config : Config} {d : Declaration}
    (h : d.isContainer = true) : d.AtRest config := by
  have hbody : d.body = .container := of_decide_eq_true h
  intro method hmem
  rw [callables, hbody] at hmem
  cases hmem

/-- Methods that were emitted once for each of their pairs are at rest. -/
theorem Declaration.atRest_emitted {config : Config} {count : Nat → Nat} {d : Declaration}
    (h : ∀ place method, d.callables[place]? = some method → method.openPairs ≤ count place) :
    (d.emitted config count).AtRest config := by
  intro other hmem
  rw [callables_emitted] at hmem
  obtain ⟨place, hlt, rfl⟩ := List.mem_mapIdx.1 hmem
  exact Method.afterBlocks_iterate (h place d.callables[place] (List.getElem?_eq_getElem hlt))

/-- The definitions of a library show no emission when its methods are at rest. -/
theorem Definitions.text_emitted {config : Config} {library : Option String} {forest : Forest}
    (h : ∀ d ∈ forest.walk, owned library d = true → d.AtRest config)
    (count : Declaration → Nat → Nat) :
    text config library (forest.emitted config count) = text config library forest := by
  cases library with
  | none =>
      have hsame : forest.emitted config count = forest := by
        refine (Forest.map_congr fun d hd => ?_).trans (Forest.map_id forest)
        cases hcontainer : d.isContainer with
        | true => exact (Declaration.atRest_of_isContainer hcontainer).emitted _
        | false => exact (h d hd (by simp [owned, hcontainer])).emitted _
      rw [hsame]
  | some library =>
      refine text_map_of_sameTo fun d hd => ⟨rfl, ?_, fun hbelongs => ?_⟩
      · rw [← owned_some, Declaration.owned_emitted, owned_some]
      · rw [← owned_some] at hbelongs
        exact (h d hd hbelongs).emitted _

/-- Exports show no emission, since they do not look at methods. -/
theorem Exports.text_emitted {config : Config} {library : Option String} {forest : Forest}
    (count : Declaration → Nat → Nat) :
    text config library (forest.emitted config count) = text config library forest := by
  have hmodule : ∀ d : Declaration, moduleOf? (d.emitted config (count d)) = moduleOf? d := by
    intro d
    rw [moduleOf?, Declaration.kind_emitted, moduleOf?]
    rfl
  exact text_map hmodule (fun _ => rfl) (fun _ => rfl)

namespace Session

/-- The definitions of a library show no operation when its methods are at rest. -/
theorem definitions_atRest {tree : Tree} {library : Option String}
    (h : ∀ d ∈ tree.forest.walk, Definitions.owned library d = true → d.AtRest tree.config)
    (operations : List Operation) :
    ((reconciled tree).afterAll operations).definitions library =
      (reconciled tree).definitions library := by
  rw [afterAll_reconciled]
  exact congrArg (Except.mapError SessionError.unsupportedKind) (Definitions.text_emitted h _)

/-- The exports show no operation at all. -/
theorem exports_afterAll (tree : Tree) (operations : List Operation) (library : Option String) :
    ((reconciled tree).afterAll operations).exports library =
      (reconciled tree).exports library := by
  rw [afterAll_reconciled]
  exact congrArg (fun text => Except.mapError SessionError.unsupportedKind (.ok text))
    (Exports.text_emitted _)

/-! ## Runs of operations -/

/-- Operations on a reconciled tree change nothing but the types of parameters. Each change widens
an optional parameter that is followed by optional ones only, and there are no more changes than
unrelated pairs. The exports stay as they are, and so do the definitions of a library once each of
its methods was emitted as many times as it has such pairs. -/
theorem afterAll_settles (tree : Tree) (operations : List Operation) :
    let emissions (d : Declaration) (place : Nat) : Nat :=
      operations.countP (·.emits tree.forest d place)
    (reconciled tree).afterAll operations = .reconciled (tree.emitted emissions) ∧
    tree.WidenedTo (tree.emitted emissions) ∧
    (reconciled tree).changes operations ≤ tree.forest.openPairs ∧
    (∀ library, ((reconciled tree).afterAll operations).exports library =
      (reconciled tree).exports library) ∧
    ∀ library,
      (∀ d ∈ tree.forest.walk, Definitions.owned library d = true → ∀ place method,
        d.callables[place]? = some method → method.openPairs ≤ emissions d place) →
      ∀ more, ((reconciled tree).afterAll (operations ++ more)).definitions library =
        ((reconciled tree).afterAll operations).definitions library := by
  intro emissions
  have hafter := afterAll_reconciled tree operations
  refine ⟨hafter, tree.widenedTo_emitted emissions, changes_le tree operations,
    exports_afterAll tree operations, ?_⟩
  intro library hoften more
  rw [afterAll_append, hafter]
  refine definitions_atRest (fun d hd howned => ?_) more
  -- what is left of a declaration is the declaration with its methods emitted
  obtain ⟨old, hold, rfl⟩ : ∃ old ∈ tree.forest.walk,
      old.emitted tree.config (emissions old) = d := by
    rw [Tree.emitted, Forest.walk_emitted] at hd
    exact List.mem_map.1 hd
  rw [Declaration.owned_emitted] at howned
  exact Declaration.atRest_emitted (hoften old hold howned)

/-! ## A class whose constructor is widened -/

/-- An optional parameter of a constructor. -/
def optionalParameter (name type : String) : Document.Parameter where
  name := name
  type := type
  optional := true
  spread := false
  description := ""
  defaultValue := .null

/-- A library with a class that is made from an identifier, from settings, or from both. -/
def dialogLibrary (library : String) : Document where
  library := library
  version := "1"
  symbols :=
    [{ heading :=
        { name := library ++ ".Dialog", basename := "Dialog", visibility := .isPublic
          moduleName := none, resource := none, description := "" }
       content := .classType none [] false
        (some
          { visibility := .isPublic, description := ""
            parameters := [optionalParameter "id" "string", optionalParameter "settings" "object"] })
        { methods := [], properties := [], events := [] } }]

/-- The first rendering widens the identifier, and no later operation changes the definitions. -/
theorem afterAll_settles_dialogLibrary :
    let tree := (Tree.ofDocuments {} [dialogLibrary "x"]).reconcile
    let rendering : List Operation := [.definitions (some "x")]
    tree.forest.openPairs = 1 ∧ (reconciled tree).changes (rendering ++ rendering) = 1 ∧
      (∀ d ∈ tree.forest.walk, Definitions.owned (some "x") d = true → ∀ place method,
        d.callables[place]? = some method →
          method.openPairs ≤ rendering.countP (·.emits tree.forest d place)) ∧
      ∀ more, ((reconciled tree).afterAll (rendering ++ more)).definitions (some "x") =
        ((reconciled tree).afterAll rendering).definitions (some "x") := by
  intro tree rendering
  have hpairs : ∀ d ∈ tree.forest.walk, ∀ method ∈ d.callables, method.openPairs ≤ 1 := by
    decide +kernel
  have hoften : ∀ d ∈ tree.forest.walk, Definitions.owned (some "x") d = true → ∀ place method,
      d.callables[place]? = some method →
        method.openPairs ≤ rendering.countP (·.emits tree.forest d place) := by
    intro d hd howned place method hmethod
    have honce : rendering.countP (·.emits tree.forest d place) = 1 := by
      simp [rendering, Operation.emits, howned]
    rw [honce]
    exact hpairs d hd method (List.mem_of_getElem? hmethod)
  refine ⟨by decide +kernel, by decide +kernel, hoften, ?_⟩
  exact (afterAll_settles tree rendering).2.2.2.2 (some "x") hoften

end Session
end Typings
