import Typings.Proofs.Hierarchy.Reachability
import Typings.Proofs.Hierarchy.Registration

/-!
# Compatible types as an order

Whether one result type can stand in for another is decided by a walk up from a class that stops
where it would go round. What it decides is told without the walk: by the types with a meaning of
their own, and by what base classes lead to. Where every type text has one meaning at most, this is
a reflexive and transitive relation.

* `Coherent.reachesName_iff_eqOrAncestor`: ways up by name when simple names are distinct;
* `compatible_iff_reachable`: compatibility of types in every hierarchy.
-/

namespace Typings
namespace Hierarchy

variable {h : Hierarchy} {expected candidate : String}

/-- The expected type is the candidate itself, as the full name of a class, or an ancestor of it. -/
def EqOrAncestor (h : Hierarchy) (expected candidate : String) : Prop :=
  ∃ above ∈ h.classes, ∃ below ∈ h.classes,
    above.fullName = expected ∧ below.fullName = candidate ∧
      (expected = candidate ∨ Relation.TransGen h.Extends below above)

/-- Where simple names are distinct, a way up by name is one to the class itself. -/
theorem Coherent.reachesName_iff_eqOrAncestor (hc : h.Coherent)
    (hdistinct : (h.classes.map (·.name)).Nodup) :
    h.ReachesName expected candidate ↔ h.EqOrAncestor expected candidate := by
  rw [hc.reachesName_iff hdistinct]
  constructor
  · rintro ⟨above, habove, below, hbelow, rfl, rfl, hpath⟩
    refine ⟨above, habove, below, hbelow, rfl, rfl, ?_⟩
    rcases Relation.reflTransGen_iff_eq_or_transGen.1 hpath with hsame | hpath
    · exact .inl (congrArg Class.fullName hsame)
    · exact .inr hpath
  · rintro ⟨above, habove, below, hbelow, rfl, rfl, hname | hpath⟩
    · have hsame : above = below := hc.eq_of_fullName habove hbelow hname
      exact ⟨above, habove, below, hbelow, rfl, rfl, hsame ▸ .refl⟩
    · exact ⟨above, habove, below, hbelow, rfl, rfl, hpath.to_reflTransGen⟩

/-- A type can stand in for an expected one when they are equal, when no result is expected, when it
is `any` or `this`, or when base classes lead from its class to one with the simple name of the
expected class. Where simple names are distinct, these are the class itself and its ancestors; and
compatibility is reflexive and transitive when besides no class is named `any`, `void` or `this`. -/
theorem compatible_iff_reachable (classes : List Class) :
    let h := ofList classes
    (∀ expected candidate, h.compatible expected candidate = true ↔
      expected = candidate ∨ expected = voidType ∨ candidate = anyType ∨ candidate = selfType ∨
        h.ReachesName expected candidate) ∧
    ((h.classes.map (·.name)).Nodup →
      (∀ expected candidate,
        h.ReachesName expected candidate ↔ h.EqOrAncestor expected candidate) ∧
      ((∀ c ∈ h.classes, c.fullName ∉ [anyType, voidType, selfType]) →
        (∀ type, h.compatible type type = true) ∧
        ∀ upper middle lower, h.compatible upper middle = true →
          h.compatible middle lower = true → h.compatible upper lower = true)) := by
  intro h
  have hc : h.Coherent := coherent_ofList classes
  refine ⟨fun _ _ => hc.compatible_iff, ?_⟩
  intro hdistinct
  refine ⟨fun _ _ => hc.reachesName_iff_eqOrAncestor hdistinct, ?_⟩
  intro hplain
  exact ⟨compatible_self, fun _ _ _ hupper hlower =>
    hc.compatible_trans hdistinct hplain hupper hlower⟩

/-- Of three classes below each other, the lowest one can stand in for the highest one and not the
other way round; of two that are each other's base, each can stand in for the other one. -/
theorem compatible_iff_reachable_interleaved :
    let h := ofList interleaved
    (h.classes.map (·.name)).Nodup ∧
      (∀ c ∈ h.classes, c.fullName ∉ [anyType, voidType, selfType]) ∧
      h.compatible "x.A" "x.C" = true ∧ h.compatible "x.C" "x.A" = false ∧
      ¬ h.EqOrAncestor "x.C" "x.A" ∧
      h.EqOrAncestor "x.P" "x.Q" ∧ h.EqOrAncestor "x.Q" "x.P" := by
  intro h
  have hdistinct : (h.classes.map (·.name)).Nodup := by decide +kernel
  have hplain : ∀ c ∈ h.classes, c.fullName ∉ [anyType, voidType, selfType] := by decide +kernel
  obtain ⟨hiff, hmore⟩ := compatible_iff_reachable interleaved
  obtain ⟨hancestor, hrelation⟩ := hmore hdistinct
  obtain ⟨_, htrans⟩ := hrelation hplain
  have hreverse : h.compatible "x.C" "x.A" = false := by decide +kernel
  -- a way up is found by compatibility where none of the other rules holds
  have hup : ∀ expected candidate, h.compatible expected candidate = true →
      expected ≠ candidate ∧ expected ≠ voidType ∧ candidate ≠ anyType ∧ candidate ≠ selfType →
        h.EqOrAncestor expected candidate := by
    intro expected candidate hcompatible hrules
    refine (hancestor expected candidate).1 ?_
    rcases (hiff expected candidate).1 hcompatible with hsame | hvoid | hany | hself | hreaches
    · exact absurd hsame hrules.1
    · exact absurd hvoid hrules.2.1
    · exact absurd hany hrules.2.2.1
    · exact absurd hself hrules.2.2.2
    · exact hreaches
  refine ⟨hdistinct, hplain, ?_, hreverse, ?_, ?_, ?_⟩
  · exact htrans "x.A" "x.B" "x.C" (by decide +kernel) (by decide +kernel)
  · intro hancestors
    have hcompatible := (hiff "x.C" "x.A").2
      (.inr (.inr (.inr (.inr ((hancestor "x.C" "x.A").2 hancestors)))))
    exact absurd (hreverse.symm.trans hcompatible) Bool.false_ne_true
  · exact hup "x.P" "x.Q" (by decide +kernel) (by decide +kernel)
  · exact hup "x.Q" "x.P" (by decide +kernel) (by decide +kernel)

end Hierarchy
end Typings
