import Typings.Proofs.Overload.ClosedForm

/-!
# Plans of parameter lists

A plan drops or keeps each optional run in front of a required parameter as a whole. Widening
reaches no further than the optional parameters at the end of the list.

* `frontSlots`, `trailingSlots`: the slots in front of the optional end of a list, and those at it;
* `overload`: the overload that one choice describes;
* `getElem?_foldl_widenAlong`: what widening leaves of the parameters;
* `Plan.overloads_ofParameters`: the plan of a parameter list in closed form.
-/

namespace Typings

open Slot

variable {parameters : List Parameter}

/-! ## The slots of a parameter list -/

theorem ofParameters_append (start : Nat) (front trailing : List Parameter) :
    Slot.ofParameters start (front ++ trailing) =
      Slot.ofParameters start front ++ Slot.ofParameters (start + front.length) trailing := by
  induction front generalizing start with
  | nil => rfl
  | cons parameter rest ih =>
      rw [List.cons_append, Slot.ofParameters, ih, Slot.ofParameters, List.cons_append,
        List.length_cons, Nat.add_assoc, Nat.add_comm 1]

theorem isOptional_ofParameters (start : Nat) (parameters : List Parameter) :
    (Slot.ofParameters start parameters).map Slot.isOptional =
      parameters.map Parameter.optional := by
  induction parameters generalizing start with
  | nil => rfl
  | cons parameter rest ih =>
      rw [Slot.ofParameters, List.map_cons, List.map_cons, ih]
      cases parameter.optional <;> rfl

theorem position_ofParameters (start : Nat) (parameters : List Parameter) :
    (Slot.ofParameters start parameters).map Slot.position =
      List.range' start parameters.length := by
  induction parameters generalizing start with
  | nil => rfl
  | cons parameter rest ih =>
      rw [Slot.ofParameters, List.map_cons, ih, List.length_cons, List.range'_succ]
      cases parameter.optional <;> rfl

theorem mem_ofParameters {start : Nat} {parameters : List Parameter} {slot : Slot} :
    slot ∈ Slot.ofParameters start parameters ↔
      ∃ position parameter, parameters[position]? = some parameter ∧
        slot = if parameter.optional then .optional (start + position)
          else .required (start + position) := by
  induction parameters generalizing start with
  | nil => simp [Slot.ofParameters]
  | cons first rest ih =>
      rw [Slot.ofParameters, List.mem_cons, ih]
      constructor
      · rintro (rfl | ⟨position, parameter, hparameter, rfl⟩)
        · exact ⟨0, first, rfl, rfl⟩
        · refine ⟨position + 1, parameter, hparameter, ?_⟩
          rw [Nat.add_assoc, Nat.add_comm 1]
      · rintro ⟨position, parameter, hparameter, rfl⟩
        rcases position with _ | position
        · left
          cases hparameter
          rfl
        · right
          refine ⟨position, parameter, hparameter, ?_⟩
          rw [Nat.add_assoc, Nat.add_comm 1]

/-! ## The end of a parameter list -/

/-- The slots in front of the optional end of a parameter list. -/
def frontSlots (parameters : List Parameter) : List Slot :=
  Slot.ofParameters 0 (parameters.rdropWhile Parameter.optional)

/-- The slots of the longest end of a parameter list that is optional throughout. -/
def trailingSlots (parameters : List Parameter) : List Slot :=
  Slot.ofParameters (parameters.rdropWhile Parameter.optional).length
    (parameters.rtakeWhile Parameter.optional)

theorem frontSlots_append_trailingSlots (parameters : List Parameter) :
    frontSlots parameters ++ trailingSlots parameters = Slot.ofParameters 0 parameters := by
  have happend := ofParameters_append 0 (parameters.rdropWhile Parameter.optional)
    (parameters.rtakeWhile Parameter.optional)
  rw [List.rdropWhile_append_rtakeWhile, Nat.zero_add] at happend
  exact happend.symm

theorem isOptional_of_mem_trailingSlots {slot : Slot} (hmem : slot ∈ trailingSlots parameters) :
    slot.isOptional = true := by
  rcases mem_ofParameters.1 hmem with ⟨position, parameter, hparameter, rfl⟩
  rw [if_pos (List.mem_rtakeWhile_imp (List.mem_of_getElem? hparameter))]
  rfl

theorem optional_getLast?_rdropWhile (parameters : List Parameter) :
    ∀ last ∈ (parameters.rdropWhile Parameter.optional).getLast?, last.optional = false := by
  intro last hlast
  have hne : parameters.rdropWhile Parameter.optional ≠ [] := by
    rintro hnil
    rw [hnil] at hlast
    cases hlast
  have hnot := List.rdropWhile_last_not Parameter.optional parameters hne
  rw [List.getLast?_eq_some_getLast hne, Option.mem_some_iff] at hlast
  rw [← hlast]
  simpa using hnot

theorem isOptional_getLast?_frontSlots {slot : Slot}
    (hlast : slot ∈ (frontSlots parameters).getLast?) : slot.isOptional = false := by
  have hflag : ((parameters.rdropWhile Parameter.optional).map Parameter.optional).getLast? =
      some slot.isOptional := by
    rw [← isOptional_ofParameters 0, List.getLast?_map]
    exact congrArg (Option.map Slot.isOptional) hlast
  rw [List.getLast?_map] at hflag
  obtain ⟨parameter, hparameter, hsame⟩ := Option.map_eq_some_iff.1 hflag
  rw [← hsame]
  exact optional_getLast?_rdropWhile parameters parameter hparameter

/-- The optional end of the slots stands for the optional end of the parameters. -/
theorem front_ofParameters (parameters : List Parameter) :
    front (Slot.ofParameters 0 parameters) = frontSlots parameters := by
  rw [← frontSlots_append_trailingSlots]
  exact front_append_of_optional (fun _ => isOptional_of_mem_trailingSlots)
    fun _ => isOptional_getLast?_frontSlots

theorem trailing_ofParameters (parameters : List Parameter) :
    trailing (Slot.ofParameters 0 parameters) = trailingSlots parameters := by
  rw [← frontSlots_append_trailingSlots]
  exact trailing_append_of_optional (fun _ => isOptional_of_mem_trailingSlots)
    fun _ => isOptional_getLast?_frontSlots

/-! ## One overload -/

/-- The overload of a parameter list that a choice for its optional runs describes. -/
def overload (parameters : List Parameter) (choice : List Bool) : List Slot :=
  resolve (runs (frontSlots parameters)) choice ++ trailingSlots parameters

theorem mem_resolve_frontSlots {slot : Slot} {choice : List Bool}
    (hmem : slot ∈ resolve (runs (frontSlots parameters)) choice) :
    (slot ∈ frontSlots parameters ∧ slot.isOptional = false) ∨
      ∃ old ∈ frontSlots parameters, old.isOptional = true ∧ slot = old.promote := by
  have hslot := mem_resolve (fun _ => uniform_of_mem_runs) hmem
  rwa [flatten_runs] at hslot

theorem isOptional_of_mem_resolve {slot : Slot} {choice : List Bool}
    (hmem : slot ∈ resolve (runs (frontSlots parameters)) choice) : slot.isOptional = false := by
  rcases mem_resolve_frontSlots hmem with ⟨_, hkind⟩ | ⟨old, _, _, rfl⟩
  · exact hkind
  · exact isOptional_promote old

/-- The parameters of an overload stand in the order of the list. -/
theorem pairwise_position_overload (parameters : List Parameter) (choice : List Bool) :
    ((overload parameters choice).map Slot.position).Pairwise (· < ·) := by
  have hsublist : ((overload parameters choice).map Slot.position).Sublist
      (List.range' 0 parameters.length) := by
    have hfront := position_resolve_sublist (runs (frontSlots parameters)) choice
    rw [flatten_runs] at hfront
    rw [← position_ofParameters, ← frontSlots_append_trailingSlots, overload, List.map_append,
      List.map_append]
    exact hfront.append_right _
  exact List.Pairwise.sublist hsublist List.pairwise_lt_range'

/-- No optional slot of an overload stands in front of another one. -/
theorem pairwise_isOptional_overload (parameters : List Parameter) (choice : List Bool) :
    (overload parameters choice).Pairwise fun one other =>
      one.isOptional = true → other.isOptional = true := by
  refine List.pairwise_append.2 ⟨?_, ?_, ?_⟩
  · refine List.pairwise_of_forall_mem_list ?_
    intro one hone other _ hkind
    rw [isOptional_of_mem_resolve hone] at hkind
    cases hkind
  · refine List.pairwise_of_forall_mem_list ?_
    intro _ _ other hother _
    exact isOptional_of_mem_trailingSlots hother
  · intro _ _ other hother _
    exact isOptional_of_mem_trailingSlots hother

theorem required_mem_overload {position : Nat} {parameter : Parameter}
    (hparameter : parameters[position]? = some parameter) (hrequired : parameter.optional = false)
    (choice : List Bool) : .required position ∈ overload parameters choice := by
  have hmem : Slot.required position ∈ frontSlots parameters ++ trailingSlots parameters := by
    rw [frontSlots_append_trailingSlots]
    refine mem_ofParameters.2 ⟨position, parameter, hparameter, ?_⟩
    simp [hrequired]
  rcases List.mem_append.1 hmem with hfront | hend
  · rw [← flatten_runs (frontSlots parameters)] at hfront
    exact List.mem_append_left _ (mem_resolve_of_required hfront rfl choice)
  · cases isOptional_of_mem_trailingSlots hend

/-- Splitting the slots of a parameter list makes one overload for each choice. -/
theorem splitOverloads_ofParameters (parameters : List Parameter) :
    splitOverloads (Slot.ofParameters 0 parameters) =
      (choices (conflicts (parameters.map Parameter.optional))).map (overload parameters) := by
  rw [splitOverloads_eq, overloadsByChoice, isOptional_ofParameters, front_ofParameters,
    trailing_ofParameters]
  rfl

/-! ## Widening -/

theorem optional_mem_of_unrelatedPair? {parameters : List Parameter} {overload : List Slot}
    {position : Nat} (h : unrelatedPair? parameters overload = some position) :
    .optional position ∈ overload := by
  fun_induction unrelatedPair? parameters overload with
  | case1 first second rest one other hone hother hpair =>
      cases h
      simp only [Bool.and_eq_true] at hpair
      cases first <;> simp_all [Slot.isOptional, Slot.position]
  | case2 first second rest one other hone hother hpair ih =>
      exact List.mem_cons_of_mem first (ih h)
  | case3 first second rest hmissing ih => exact List.mem_cons_of_mem first (ih h)
  | case4 => cases h

/-- Widening along one overload leaves every parameter as it is, or widens one that has an optional
slot there. -/
theorem getElem?_widenAlong (parameters : List Parameter) (overload : List Slot)
    (position : Nat) :
    (widenAlong parameters overload)[position]? = parameters[position]? ∨
      .optional position ∈ overload ∧
        (widenAlong parameters overload)[position]? =
          parameters[position]?.map Parameter.widened := by
  rw [widenAlong]
  cases hpair : unrelatedPair? parameters overload with
  | none => exact .inl rfl
  | some widened =>
      by_cases heq : widened = position
      · subst heq
        refine .inr ⟨optional_mem_of_unrelatedPair? hpair, ?_⟩
        simp
      · left
        simp [heq]

theorem getElem?_foldl_widenAlong (overloads : List (List Slot)) (parameters : List Parameter)
    (position : Nat) :
    (overloads.foldl widenAlong parameters)[position]? = parameters[position]? ∨
      (∃ overload ∈ overloads, .optional position ∈ overload) ∧
        (overloads.foldl widenAlong parameters)[position]? =
          parameters[position]?.map Parameter.widened := by
  induction overloads generalizing parameters with
  | nil => exact .inl rfl
  | cons overload rest ih =>
      rw [List.foldl_cons]
      rcases ih (widenAlong parameters overload) with hsame | ⟨⟨later, hlater, hmem⟩, hwidened⟩
      · rcases getElem?_widenAlong parameters overload position with hkept | ⟨hmem, hwidened⟩
        · exact .inl (hsame.trans hkept)
        · exact .inr ⟨⟨overload, List.mem_cons_self, hmem⟩, hsame.trans hwidened⟩
      · refine .inr ⟨⟨later, List.mem_cons_of_mem overload hlater, hmem⟩, ?_⟩
        rw [hwidened]
        rcases getElem?_widenAlong parameters overload position with hkept | ⟨_, hagain⟩
        · rw [hkept]
        · rw [hagain, Option.map_map]
          rfl

/-! ## Plans in closed form -/

/-- How a slot of an overload shows a parameter of the list. A required parameter is the one of the
list; an optional one is the one of the list as well, and stands at the end, maybe widened; a
promoted one is a copy that differs in being required only. -/
def Slot.Shows (plan : Plan) (trailing : List Slot) (parameter : Parameter) : Slot → Prop
  | .required position =>
      parameter.optional = false ∧ plan.parameters[position]? = some parameter
  | .optional position =>
      .optional position ∈ trailing ∧ parameter.optional = true ∧
        (plan.parameters[position]? = some parameter ∨
          plan.parameters[position]? = some parameter.widened)
  | .promoted position =>
      parameter.optional = true ∧ plan.parameters[position]? = some parameter ∧
        Slot.read? plan.parameters (.promoted position) = some { parameter with optional := false }

namespace Plan

/-- No widening reaches the parameters in front of the optional end. -/
theorem getElem?_of_front {position : Nat} {parameter : Parameter}
    (hparameter : (parameters.rdropWhile Parameter.optional)[position]? = some parameter) :
    parameters[position]? = some parameter ∧
      (ofParameters parameters).parameters[position]? = some parameter := by
  have hlt := (List.getElem?_eq_some_iff.1 hparameter).1
  have hwhole : parameters[position]? = some parameter := by
    rw [← List.rdropWhile_append_rtakeWhile (p := Parameter.optional) (l := parameters),
      List.getElem?_append_left hlt, hparameter]
  refine ⟨hwhole, ?_⟩
  rcases getElem?_foldl_widenAlong (splitOverloads (Slot.ofParameters 0 parameters)) parameters
    position with hsame | ⟨⟨slots, hslots, hmem⟩, _⟩
  · exact hsame.trans hwhole
  · -- a widened position has an optional slot, which only the end of the list has
    exfalso
    rw [splitOverloads_ofParameters] at hslots
    rcases List.mem_map.1 hslots with ⟨choice, _, rfl⟩
    rcases List.mem_append.1 hmem with hmem | hmem
    · cases isOptional_of_mem_resolve hmem
    · rcases mem_ofParameters.1 hmem with ⟨offset, parameter, _, heq⟩
      have hposition := congrArg Slot.position heq
      split at hposition <;> simp only [Slot.position] at hposition <;> omega

theorem shows_of_mem_resolve {slot : Slot} {choice : List Bool}
    (hmem : slot ∈ resolve (runs (frontSlots parameters)) choice) :
    ∃ parameter, parameters[slot.position]? = some parameter ∧
      slot.Shows (ofParameters parameters) (trailingSlots parameters) parameter := by
  rcases mem_resolve_frontSlots hmem with ⟨hfront, hkind⟩ | ⟨old, hfront, hkind, rfl⟩
  · rcases mem_ofParameters.1 hfront with ⟨position, parameter, hparameter, rfl⟩
    rcases getElem?_of_front hparameter with ⟨hwhole, hplan⟩
    cases hoptional : parameter.optional
    · simpa [hoptional, Slot.position, Slot.Shows, hwhole] using hplan
    · simp [hoptional, Slot.isOptional] at hkind
  · rcases mem_ofParameters.1 hfront with ⟨position, parameter, hparameter, rfl⟩
    rcases getElem?_of_front hparameter with ⟨hwhole, hplan⟩
    cases hoptional : parameter.optional
    · simp [hoptional, Slot.isOptional] at hkind
    · simp [hoptional, Slot.position, Slot.promote, Slot.Shows, Slot.read?, hwhole, hplan,
        Parameter.required]

theorem shows_of_mem_trailingSlots {slot : Slot} (hmem : slot ∈ trailingSlots parameters) :
    ∃ parameter, parameters[slot.position]? = some parameter ∧
      slot.Shows (ofParameters parameters) (trailingSlots parameters) parameter := by
  rcases mem_ofParameters.1 hmem with ⟨offset, parameter, hparameter, rfl⟩
  have hkind : parameter.optional = true :=
    List.mem_rtakeWhile_imp (List.mem_of_getElem? hparameter)
  rw [if_pos hkind] at hmem ⊢
  set position := (parameters.rdropWhile Parameter.optional).length + offset with hposition
  have hwhole : parameters[position]? = some parameter := by
    rw [← List.rdropWhile_append_rtakeWhile (p := Parameter.optional) (l := parameters), hposition,
      List.getElem?_append_right (Nat.le_add_right _ _), Nat.add_sub_cancel_left, hparameter]
  refine ⟨parameter, hwhole, hmem, hkind, ?_⟩
  rcases getElem?_foldl_widenAlong (splitOverloads (Slot.ofParameters 0 parameters)) parameters
    position with hsame | ⟨_, hwidened⟩
  · exact .inl (hsame.trans hwhole)
  · right
    refine hwidened.trans ?_
    rw [hwhole]
    rfl

/-- A plan has one overload for each choice, in lexicographic order, to drop or to keep the optional
runs that stand in front of a required parameter. -/
theorem overloads_ofParameters (parameters : List Parameter) :
    let plan := ofParameters parameters
    let count := conflicts (parameters.map Parameter.optional)
    optionalRuns (frontSlots parameters) = count ∧
    plan.overloads = (choices count).map (overload parameters) ∧
    plan.overloads.length = 2 ^ count ∧
    (choices count).Pairwise (· < ·) ∧
    (∀ choice, choice ∈ choices count ↔ choice.length = count) ∧
    ∀ slots ∈ plan.overloads,
      (slots.map Slot.position).Pairwise (· < ·) ∧
      trailingSlots parameters <:+ slots ∧
      slots.Pairwise (fun one other => one.isOptional = true → other.isOptional = true) ∧
      (∀ position parameter, parameters[position]? = some parameter →
        parameter.optional = false → .required position ∈ slots) ∧
      ∀ slot ∈ slots, ∃ parameter, parameters[slot.position]? = some parameter ∧
        slot.Shows plan (trailingSlots parameters) parameter := by
  intro plan count
  have hoverloads : plan.overloads = (choices count).map (overload parameters) :=
    splitOverloads_ofParameters parameters
  have hcount : optionalRuns (frontSlots parameters) = count := by
    have hfront := optionalRuns_front (Slot.ofParameters 0 parameters)
    rwa [isOptional_ofParameters, front_ofParameters] at hfront
  refine ⟨hcount, hoverloads, ?_, pairwise_choices count, fun _ => mem_choices, ?_⟩
  · rw [hoverloads, List.length_map, length_choices]
  · intro slots hslots
    rw [hoverloads] at hslots
    rcases List.mem_map.1 hslots with ⟨choice, _, rfl⟩
    refine ⟨pairwise_position_overload parameters choice, List.suffix_append _ _,
      pairwise_isOptional_overload parameters choice, ?_, ?_⟩
    · intro position parameter hparameter hrequired
      exact required_mem_overload hparameter hrequired choice
    · intro slot hslot
      rcases List.mem_append.1 hslot with hfront | hend
      · exact shows_of_mem_resolve hfront
      · exact shows_of_mem_trailingSlots hend

example :
    (ofParameters [{ name := "data", optional := true }, { name := "handler" },
      { name := "listener", optional := true }]).overloads =
      [[.required 1, .optional 2], [.promoted 0, .required 1, .optional 2]] := by
  decide +kernel

end Plan
end Typings
