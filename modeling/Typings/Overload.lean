import Typings.Member.Parameter

/-!
# Overloads for parameter lists

A declaration may not have an optional parameter in front of a required one, as in
`attach(data?, handler, listener?)`. Such a list is split into overloads: one without the optional
parameters in front, one with them made required. Where two optional parameters in a row have
unrelated types, the earlier one is widened to `any`, because callers pass the later one in its
place.

* `Slot`: a place in an overload, referring to a parameter of the list by its position;
* `splitOverloads`: the overloads, each pair of an optional and a required parameter split from
  the left;
* `widenAlong`: the list after one overload has widened its first unrelated pair;
* `Plan.ofParameters`: the overloads of a list together with the list as planning leaves it.

A slot refers to a position and holds no copy of the parameter, so an overload shows what a later
widening did.
-/

namespace Typings

/-! ## Slots -/

/-- A place in an overload. A promoted slot is an optional parameter made required. -/
inductive Slot where
  | required (position : Nat)
  | optional (position : Nat)
  | promoted (position : Nat)
deriving DecidableEq, Repr

namespace Slot

def position : Slot → Nat
  | .required position | .optional position | .promoted position => position

def isOptional : Slot → Bool
  | .optional _ => true
  | _ => false

/-- An optional slot made required; other slots stay. -/
def promote : Slot → Slot
  | .optional position => .promoted position
  | slot => slot

/-- The slots of a parameter list, the first one at a given position. -/
def ofParameters : Nat → List Parameter → List Slot
  | _, [] => []
  | position, parameter :: rest =>
      (if parameter.optional then .optional position else .required position) ::
        ofParameters (position + 1) rest

/-- The parameter that a slot shows: a promoted slot shows a required copy. -/
def read? (parameters : List Parameter) : Slot → Option Parameter
  | .promoted position => parameters[position]?.map Parameter.required
  | slot => parameters[slot.position]?

end Slot

/-! ## Splitting -/

/-- Cut a list in front of the first required slot that follows an optional one. -/
def cutPair? : List Slot → Option (List Slot × List Slot)
  | first :: second :: rest =>
      if first.isOptional && !second.isOptional then some ([first], second :: rest)
      else (cutPair? (second :: rest)).map fun (before, behind) => (first :: before, behind)
  | _ => none

theorem append_of_cutPair? {slots before behind : List Slot}
    (h : cutPair? slots = some (before, behind)) : before ++ behind = slots := by
  fun_induction cutPair? slots generalizing before behind with
  | case1 first second rest _ => cases h; rfl
  | case2 first second rest _ ih =>
      obtain ⟨⟨b, a⟩, hcut, heq⟩ := Option.map_eq_some_iff.1 h
      cases heq
      simp [ih hcut]
  | case3 => cases h

theorem exists_optional_of_cutPair? {slots before behind : List Slot}
    (h : cutPair? slots = some (before, behind)) : ∃ slot ∈ before, slot.isOptional = true := by
  fun_induction cutPair? slots generalizing before behind with
  | case1 first second rest hpair =>
      cases h
      simp only [Bool.and_eq_true] at hpair
      exact ⟨first, by simp, hpair.1⟩
  | case2 first second rest _ ih =>
      obtain ⟨⟨b, a⟩, hcut, heq⟩ := Option.map_eq_some_iff.1 h
      cases heq
      obtain ⟨slot, hmem, hopt⟩ := ih hcut
      exact ⟨slot, by simp [hmem], hopt⟩
  | case3 => cases h

/-- The number of optional slots. -/
def optionalCount (slots : List Slot) : Nat :=
  slots.countP Slot.isOptional

theorem optionalCount_dropOptional (before behind : List Slot) :
    optionalCount (before.filter (!·.isOptional) ++ behind) = optionalCount behind := by
  simp only [optionalCount, List.countP_append, Nat.add_eq_right, List.countP_eq_zero]
  intro slot hmem
  simpa using (List.mem_filter.1 hmem).2

theorem optionalCount_promote (before behind : List Slot) :
    optionalCount (before.map Slot.promote ++ behind) = optionalCount behind := by
  simp only [optionalCount, List.countP_append, Nat.add_eq_right, List.countP_eq_zero]
  intro slot hmem
  obtain ⟨old, _, rfl⟩ := List.mem_map.1 hmem
  cases old <;> simp [Slot.promote, Slot.isOptional]

theorem optionalCount_lt_of_cutPair? {slots before behind : List Slot}
    (h : cutPair? slots = some (before, behind)) : optionalCount behind < optionalCount slots := by
  obtain ⟨slot, hmem, hopt⟩ := exists_optional_of_cutPair? h
  rw [← append_of_cutPair? h, optionalCount, optionalCount, List.countP_append]
  have : 0 < before.countP Slot.isOptional := List.countP_pos_iff.2 ⟨slot, hmem, hopt⟩
  omega

/-- The overloads of a list of slots. Only the leftmost pair of an optional and a required slot
is split at a time; each half is split further on its own. -/
def splitOverloads (slots : List Slot) : List (List Slot) :=
  match _h : cutPair? slots with
  | some (before, behind) =>
      splitOverloads (before.filter (!·.isOptional) ++ behind) ++
        splitOverloads (before.map Slot.promote ++ behind)
  | none => [slots]
termination_by optionalCount slots
decreasing_by
  · rw [optionalCount_dropOptional]; exact optionalCount_lt_of_cutPair? ‹_›
  · rw [optionalCount_promote]; exact optionalCount_lt_of_cutPair? ‹_›

/-! ## Widening -/

/-- The first optional slot that is followed by an optional one of an unrelated type. -/
def unrelatedPair? (parameters : List Parameter) : List Slot → Option Nat
  | first :: second :: rest =>
      match parameters[first.position]?, parameters[second.position]? with
      | some one, some other =>
          if first.isOptional && second.isOptional && !other.compatible one then
            some first.position
          else unrelatedPair? parameters (second :: rest)
      | _, _ => unrelatedPair? parameters (second :: rest)
  | _ => none

/-- The parameters after one overload has widened the earlier half of its first unrelated pair. -/
def widenAlong (parameters : List Parameter) (overload : List Slot) : List Parameter :=
  match unrelatedPair? parameters overload with
  | some position => parameters.modify position Parameter.widened
  | none => parameters

/-! ## Plans -/

/-- The overloads of a parameter list, and the parameters as planning leaves them. -/
structure Plan where
  overloads : List (List Slot)
  parameters : List Parameter
deriving DecidableEq, Repr

namespace Plan

/-- Plan the overloads of a list. Every overload in turn widens one pair. -/
def ofParameters (parameters : List Parameter) : Plan :=
  let overloads := splitOverloads (Slot.ofParameters 0 parameters)
  { overloads, parameters := overloads.foldl widenAlong parameters }

/-- The parameter lists that a plan declares, after all its widenings. -/
def parameterLists (plan : Plan) : List (List Parameter) :=
  plan.overloads.map fun overload => overload.filterMap (Slot.read? plan.parameters)

end Plan
end Typings
