import Typings.Proofs.Rendering.Succeeds
import Typings.Proofs.Session.Operations

/-!
# Sessions that refuse nothing

Whatever the documents are, their tree is reconciled, and from then on no operation is refused: not
by the phase of the session, and not by the kind of a symbol that a method lies in.

* `Forest.Declarable.emitted`: methods that were emitted can still be declared;
* `Session.never_refused`: what a session does after any run of operations.
-/

namespace Typings

/-- Emitting methods keeps the symbols that they lie in. -/
theorem Forest.Declarable.emitted {forest : Forest} (h : forest.Declarable) (config : Config)
    (count : Declaration → Nat → Nat) : (forest.emitted config count).Declarable := by
  intro d hd method hmethod
  rw [walk_emitted] at hd
  obtain ⟨old, hold, rfl⟩ := List.mem_map.1 hd
  rw [Declaration.callables_emitted] at hmethod
  obtain ⟨place, hlt, rfl⟩ := List.mem_mapIdx.1 hmethod
  rw [(Method.widenedTo_iterate config old.callables[place] (count old place)).kept]
  exact h old hold old.callables[place] (List.getElem_mem hlt)

namespace Forest

variable {forest : Forest} {fullName : String} {method : Method}

theorem mem_callables_of_method? (h : forest.method? fullName = some method) :
    ∃ d ∈ forest.walk, method ∈ d.callables := by
  obtain ⟨d, hd, hfound⟩ := List.exists_of_findSome?_eq_some h
  exact ⟨d, hd, List.mem_of_find?_eq_some hfound⟩

end Forest

namespace Session

/-- The method that is found by a name has blocks. -/
theorem emit_of_declarable {tree : Tree} (h : tree.forest.Declarable) (fullName : String) :
    ∃ blocks, (reconciled tree).emit fullName =
      .ok ((tree.forest.method? fullName).map fun _ => blocks) := by
  rw [emit, withReconciled]
  cases hfound : tree.forest.method? fullName with
  | none => exact ⟨[], rfl⟩
  | some method =>
      obtain ⟨d, hd, hmethod⟩ := Forest.mem_callables_of_method? hfound
      obtain ⟨blocks, hblocks⟩ := Method.succeeds_blocks (h d hd method hmethod) tree.config
      refine ⟨blocks, ?_⟩
      simp only [hblocks]
      rfl

/-- The session of any documents is reconciled. After every run of operations the definitions and
the exports of every library can be rendered, and every method of the tree has blocks, the one that
is found by its name among them. -/
theorem never_refused (config : Config) (documents : List Document) :
    ∃ session, (start config documents).reconcile = .ok session ∧
      ∀ operations, ∃ tree, session.afterAll operations = .reconciled tree ∧
        (∀ library, Succeeds ((session.afterAll operations).definitions library)) ∧
        (∀ library, Succeeds ((session.afterAll operations).exports library)) ∧
        (∀ d ∈ tree.forest.walk, ∀ method ∈ d.callables, Succeeds (method.blocks config)) ∧
        ∀ fullName, ∃ blocks, (session.afterAll operations).emit fullName =
          .ok ((tree.forest.method? fullName).map fun _ => blocks) := by
  refine ⟨_, rfl, fun operations => ?_⟩
  have hafter := afterAll_reconciled (Tree.ofDocuments config documents).reconcile operations
  have hdeclarable := (Tree.declarable_reconcile config documents).emitted config
    fun d place => operations.countP
      (·.emits (Tree.ofDocuments config documents).reconcile.forest d place)
  rw [hafter]
  refine ⟨_, rfl, ?_, ?_, ?_, emit_of_declarable hdeclarable⟩
  · intro library
    exact (Definitions.succeeds_text config library hdeclarable).mapError SessionError.unsupportedKind
  · intro library
    exact succeeds_ok _
  · intro d hd method hmethod
    exact Method.succeeds_blocks (hdeclarable d hd method hmethod) config

end Session
end Typings
