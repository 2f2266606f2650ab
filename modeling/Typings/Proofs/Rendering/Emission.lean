import Typings.Proofs.Overload.Widening
import Typings.Rendering.Block

/-!
# What emission leaves of a method

Making the blocks of a method widens parameters at the end of its list, and changes nothing else.
After some emissions no unrelated pair is left there, and the method is at rest.

* `Method.WidenedTo`: the changes that emissions make to a method;
* `Method.openPairs`: the unrelated pairs that emissions have not settled yet;
* `Method.afterBlocks_eq_or_lt`, `Method.iterate_eq_or_lt`: emissions leave a method alone or settle
  a pair;
* `Method.afterBlocks_iterate`: a method that was emitted once for each of its pairs
  is at rest.
-/

namespace Typings
namespace Method

variable {config : Config} {method other last : Method}

/-! ## Changes -/

/-- The other method is this one with parameters widened at the end of its list. -/
structure WidenedTo (method other : Method) : Prop where
  kept : other = { method with parameters := other.parameters }
  parameters : WidenedAtEnd method.parameters other.parameters

namespace WidenedTo

theorem refl (method : Method) : method.WidenedTo method :=
  ⟨rfl, .refl _⟩

theorem trans (hfirst : method.WidenedTo other) (hnext : other.WidenedTo last) :
    method.WidenedTo last where
  kept := by rw [hnext.kept, hfirst.kept]
  parameters := hfirst.parameters.trans hnext.parameters

theorem fullName_eq (h : method.WidenedTo other) : other.fullName = method.fullName := by
  rw [h.kept]

end WidenedTo

theorem widenedTo_afterBlocks (config : Config) (method : Method) :
    method.WidenedTo (method.afterBlocks config) := by
  rw [afterBlocks]
  split
  · exact .refl method
  · exact ⟨rfl, Plan.widenedAtEnd_ofParameters method.parameters⟩

theorem widenedTo_iterate (config : Config) (method : Method) (count : Nat) :
    method.WidenedTo ((afterBlocks config)^[count] method) := by
  induction count with
  | zero => exact .refl method
  | succ count ih =>
      rw [Function.iterate_succ_apply']
      exact ih.trans (widenedTo_afterBlocks config _)

/-! ## Emissions that change a method -/

/-- The number of unrelated pairs among the optional parameters at the end of a method's list. -/
def openPairs (method : Method) : Nat :=
  Typings.openPairs method.parameters

/-- An emission leaves a method alone or settles a pair. -/
theorem afterBlocks_eq_or_lt (config : Config) (method : Method) :
    method.afterBlocks config = method ∨
      (method.afterBlocks config).openPairs < method.openPairs := by
  by_cases hdropped : method.isDropped config = true
  · exact .inl (if_pos hdropped)
  · rw [afterBlocks, if_neg hdropped]
    by_cases hsettled : method.openPairs = 0
    · left
      rw [Plan.parameters_of_openPairs_eq_zero hsettled]
    · exact .inr (Plan.openPairs_ofParameters_lt hsettled)

theorem iterate_eq_or_lt (config : Config) (method : Method) (count : Nat) :
    (afterBlocks config)^[count] method = method ∨
      ((afterBlocks config)^[count] method).openPairs < method.openPairs := by
  induction count with
  | zero => exact .inl rfl
  | succ count ih =>
      rw [Function.iterate_succ_apply']
      rcases ih with hsame | hlt
      · rw [hsame]
        exact afterBlocks_eq_or_lt config method
      · right
        rcases afterBlocks_eq_or_lt config ((afterBlocks config)^[count] method) with hnext | hnext
        · rwa [hnext]
        · exact hnext.trans hlt

theorem afterBlocks_of_openPairs_eq_zero (h : method.openPairs = 0) :
    method.afterBlocks config = method := by
  rcases afterBlocks_eq_or_lt config method with hsame | hlt
  · exact hsame
  · rw [h] at hlt
    exact absurd hlt (Nat.not_lt_zero _)

/-- A method that was emitted once for each of its pairs is at rest. -/
theorem afterBlocks_iterate {count : Nat} (h : method.openPairs ≤ count) :
    ((afterBlocks config)^[count] method).afterBlocks config =
      (afterBlocks config)^[count] method := by
  induction count generalizing method with
  | zero => exact afterBlocks_of_openPairs_eq_zero (Nat.le_zero.1 h)
  | succ count ih =>
      rw [Function.iterate_succ_apply]
      rcases afterBlocks_eq_or_lt config method with hsame | hlt
      · rw [hsame, Function.iterate_fixed hsame, hsame]
      · exact ih (by omega)

end Method
end Typings
