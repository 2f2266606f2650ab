import Mathlib.Logic.Function.Iterate
import Typings.Proofs.Overload.Plan

/-!
# Widening

Planning the overloads of a parameter list widens optional parameters at its end. Every overload
widens the earlier half of the first unrelated pair that is left there, so that planning again goes
on until no such pair is left.

* `unrelatedPairs`, `widenFirst`: the unrelated pairs of a list, and one widening;
* `unrelatedPairs_widenFirst`: one widening settles one pair;
* `widenAlong_overload`: what one overload does to the parameters;
* `Plan.parameters_ofParameters`: the parameters that planning leaves, in closed form;
* `WidenedAtEnd`: the changes that widenings make, however many they are.
-/

namespace Typings

variable {parameters : List Parameter}

/-! ## One widening -/

/-- The number of parameters that are followed by one of an unrelated type. -/
def unrelatedPairs : List Parameter → Nat
  | first :: second :: rest =>
      (if second.compatible first then 0 else 1) + unrelatedPairs (second :: rest)
  | [_] | [] => 0

/-- The parameters with the first one widened that is followed by one of an unrelated type. -/
def widenFirst : List Parameter → List Parameter
  | first :: second :: rest =>
      if second.compatible first then first :: widenFirst (second :: rest)
      else first.widened :: second :: rest
  | [only] => [only]
  | [] => []

theorem Parameter.compatible_widened (one other : Parameter) :
    one.compatible other.widened = true := by
  simp [compatible, widened]

theorem Parameter.widened_compatible (one other : Parameter) :
    one.widened.compatible other = true := by
  simp [compatible, widened]

/-- Widening keeps what is optional. -/
theorem optional_widenFirst (parameters : List Parameter) :
    (widenFirst parameters).map Parameter.optional = parameters.map Parameter.optional := by
  fun_induction widenFirst parameters with
  | case1 first second rest _ ih => exact congrArg (first.optional :: ·) ih
  | case2 | case3 | case4 => rfl

/-- A list still begins with its first parameter, which may be widened. -/
theorem exists_widenFirst_cons (first : Parameter) (rest : List Parameter) :
    ∃ others, widenFirst (first :: rest) = first :: others ∨
      widenFirst (first :: rest) = first.widened :: others := by
  cases rest with
  | nil => exact ⟨[], .inl rfl⟩
  | cons second rest =>
      rw [widenFirst]
      split
      · exact ⟨_, .inl rfl⟩
      · exact ⟨_, .inr rfl⟩

/-- One widening settles one pair: the one that it is for, and no other pair comes apart. -/
theorem unrelatedPairs_widenFirst (parameters : List Parameter) :
    unrelatedPairs (widenFirst parameters) = unrelatedPairs parameters - 1 := by
  fun_induction widenFirst parameters with
  | case1 first second rest hfits ih =>
      rw [unrelatedPairs, if_pos hfits, Nat.zero_add, ← ih]
      -- the second parameter is compatible with the first one as it is, and widened as well
      rcases exists_widenFirst_cons second rest with ⟨others, hsame | hwidened⟩
      · rw [hsame, unrelatedPairs, if_pos hfits, Nat.zero_add]
      · rw [hwidened, unrelatedPairs, if_pos (Parameter.widened_compatible second first),
          Nat.zero_add]
  | case2 first second rest hfits =>
      rw [unrelatedPairs, if_pos (Parameter.compatible_widened second first), unrelatedPairs,
        if_neg hfits]
      omega
  | case3 | case4 => rfl

theorem widenFirst_of_related (h : unrelatedPairs parameters = 0) :
    widenFirst parameters = parameters := by
  fun_induction widenFirst parameters with
  | case1 first second rest hfits ih =>
      rw [unrelatedPairs, if_pos hfits, Nat.zero_add] at h
      rw [ih h]
  | case2 first second rest hfits =>
      rw [unrelatedPairs, if_neg hfits] at h
      omega
  | case3 | case4 => rfl

/-! ## Widening again and again -/

theorem unrelatedPairs_iterate (count : Nat) (parameters : List Parameter) :
    unrelatedPairs (widenFirst^[count] parameters) = unrelatedPairs parameters - count := by
  induction count with
  | zero => rfl
  | succ count ih =>
      rw [Function.iterate_succ_apply', unrelatedPairs_widenFirst, ih, Nat.sub_sub]

theorem optional_iterate (count : Nat) (parameters : List Parameter) :
    (widenFirst^[count] parameters).map Parameter.optional = parameters.map Parameter.optional := by
  induction count with
  | zero => rfl
  | succ count ih => rw [Function.iterate_succ_apply', optional_widenFirst, ih]

/-! ## Along an overload -/

theorem modify_append (front : List Parameter) (parameter : Parameter) (back : List Parameter) :
    (front ++ parameter :: back).modify front.length Parameter.widened =
      front ++ parameter.widened :: back := by
  induction front with
  | nil => rfl
  | cons first rest ih => exact congrArg (first :: ·) ih

/-- Slots that are not optional are passed over. -/
theorem unrelatedPair?_append {front : List Slot} (hfront : ∀ slot ∈ front, slot.isOptional = false)
    (slots : List Slot) :
    unrelatedPair? parameters (front ++ slots) = unrelatedPair? parameters slots := by
  induction front with
  | nil => rfl
  | cons first rest ih =>
      obtain ⟨hfirst, hrest⟩ := List.forall_mem_cons.1 hfront
      rw [List.cons_append, ← ih hrest]
      cases rest ++ slots with
      | nil => rfl
      | cons second others =>
          rw [unrelatedPair?]
          split
          · simp [hfirst]
          · rfl

theorem unrelatedPair?_ofParameters (front : List Parameter) {first second : Parameter}
    {rest : List Parameter} (hfirst : first.optional = true) (hsecond : second.optional = true) :
    unrelatedPair? (front ++ first :: second :: rest)
        (Slot.ofParameters front.length (first :: second :: rest)) =
      if second.compatible first then
        unrelatedPair? (front ++ first :: second :: rest)
          (Slot.ofParameters (front.length + 1) (second :: rest))
      else some front.length := by
  have hone : (front ++ first :: second :: rest)[front.length]? = some first := by
    simp
  have hother : (front ++ first :: second :: rest)[front.length + 1]? = some second := by
    simp
  rw [Slot.ofParameters, Slot.ofParameters, if_pos hfirst, if_pos hsecond, unrelatedPair?]
  simp only [Slot.position, hone, hother]
  cases hfits : second.compatible first <;> simp [Slot.isOptional]

/-- Along the slots of optional parameters the first unrelated pair is found at its place. -/
theorem widenAlong_ofParameters (front : List Parameter) {back : List Parameter}
    (hback : ∀ parameter ∈ back, parameter.optional = true) :
    widenAlong (front ++ back) (Slot.ofParameters front.length back) =
      front ++ widenFirst back := by
  fun_induction widenFirst back generalizing front with
  | case1 first second rest hfits ih =>
      obtain ⟨hfirst, hrest⟩ := List.forall_mem_cons.1 hback
      have hnext := ih (front ++ [first]) hrest
      rw [List.length_append, List.append_assoc, List.append_assoc, List.singleton_append,
        List.singleton_append, List.length_singleton] at hnext
      rw [← hnext, widenAlong, widenAlong,
        unrelatedPair?_ofParameters front hfirst (hrest second List.mem_cons_self), if_pos hfits]
  | case2 first second rest hfits =>
      obtain ⟨hfirst, hrest⟩ := List.forall_mem_cons.1 hback
      rw [widenAlong,
        unrelatedPair?_ofParameters front hfirst (hrest second List.mem_cons_self), if_neg hfits]
      exact modify_append front first (second :: rest)
  | case3 | case4 => rfl

/-! ## Plans -/

theorem optional_of_map_eq {back other : List Parameter}
    (hback : back.map Parameter.optional = other.map Parameter.optional)
    (hother : ∀ parameter ∈ other, parameter.optional = true) :
    ∀ parameter ∈ back, parameter.optional = true := by
  intro parameter hmem
  have hflag := List.mem_map_of_mem (f := Parameter.optional) hmem
  rw [hback] at hflag
  obtain ⟨same, hsame, heq⟩ := List.mem_map.1 hflag
  rw [← heq, hother same hsame]

/-- The slots of parameters are told by what is optional. -/
theorem ofParameters_congr {back other : List Parameter}
    (h : back.map Parameter.optional = other.map Parameter.optional) (start : Nat) :
    Slot.ofParameters start back = Slot.ofParameters start other := by
  induction back generalizing other start with
  | nil =>
      rw [List.map_nil, eq_comm, List.map_eq_nil_iff] at h
      rw [h]
  | cons first rest ih =>
      cases other with
      | nil => cases h
      | cons second others =>
          obtain ⟨hfirst, hrest⟩ := List.cons_eq_cons.1 h
          rw [Slot.ofParameters, hfirst, ih hrest, Slot.ofParameters]

/-- What one overload does to parameters whose optional end may have been widened before. -/
theorem widenAlong_overload {back : List Parameter}
    (hback : back.map Parameter.optional =
      (parameters.rtakeWhile Parameter.optional).map Parameter.optional)
    (choice : List Bool) :
    widenAlong (parameters.rdropWhile Parameter.optional ++ back) (overload parameters choice) =
      parameters.rdropWhile Parameter.optional ++ widenFirst back := by
  have hoptional : ∀ parameter ∈ back, parameter.optional = true :=
    optional_of_map_eq hback fun _ => List.mem_rtakeWhile_imp
  rw [← widenAlong_ofParameters _ hoptional, ofParameters_congr hback, widenAlong, widenAlong,
    overload, unrelatedPair?_append fun _ => isOptional_of_mem_resolve, trailingSlots]

/-- Every overload in turn widens one parameter of the optional end. -/
theorem foldl_widenAlong_overload {back : List Parameter}
    (hback : back.map Parameter.optional =
      (parameters.rtakeWhile Parameter.optional).map Parameter.optional)
    (choices : List (List Bool)) :
    (choices.map (overload parameters)).foldl widenAlong
        (parameters.rdropWhile Parameter.optional ++ back) =
      parameters.rdropWhile Parameter.optional ++ widenFirst^[choices.length] back := by
  induction choices generalizing back with
  | nil => rfl
  | cons choice rest ih =>
      rw [List.map_cons, List.foldl_cons, widenAlong_overload hback,
        ih ((optional_widenFirst back).trans hback), List.length_cons, Function.iterate_succ_apply]

/-- Planning widens the optional end of a list once for each overload. -/
theorem Plan.parameters_ofParameters (parameters : List Parameter) :
    (Plan.ofParameters parameters).parameters =
      parameters.rdropWhile Parameter.optional ++
        widenFirst^[2 ^ conflicts (parameters.map Parameter.optional)]
          (parameters.rtakeWhile Parameter.optional) := by
  have hrun := foldl_widenAlong_overload
    (rfl : (parameters.rtakeWhile Parameter.optional).map Parameter.optional = _)
    (choices (conflicts (parameters.map Parameter.optional)))
  rwa [List.rdropWhile_append_rtakeWhile, length_choices, ← splitOverloads_ofParameters] at hrun

/-! ## The end of a planned list -/

theorem rtakeWhile_append_of_optional (parameters : List Parameter) {back : List Parameter}
    (hback : ∀ parameter ∈ back, parameter.optional = true) :
    (parameters ++ back).rtakeWhile Parameter.optional =
      parameters.rtakeWhile Parameter.optional ++ back := by
  rw [List.rtakeWhile, List.rtakeWhile, List.reverse_append, List.takeWhile_append_of_pos,
    List.reverse_append, List.reverse_reverse]
  exact fun parameter hmem => hback parameter (List.mem_reverse.1 hmem)

theorem rtakeWhile_rdropWhile (parameters : List Parameter) :
    (parameters.rdropWhile Parameter.optional).rtakeWhile Parameter.optional = [] := by
  rw [List.rtakeWhile_eq_nil_iff]
  exact fun hne => List.rdropWhile_last_not Parameter.optional parameters hne

/-- The number of unrelated pairs at the optional end of a list. -/
def openPairs (parameters : List Parameter) : Nat :=
  unrelatedPairs (parameters.rtakeWhile Parameter.optional)

theorem Plan.openPairs_ofParameters (parameters : List Parameter) :
    openPairs (Plan.ofParameters parameters).parameters =
      openPairs parameters - 2 ^ conflicts (parameters.map Parameter.optional) := by
  have hback := optional_of_map_eq
    (optional_iterate (2 ^ conflicts (parameters.map Parameter.optional))
      (parameters.rtakeWhile Parameter.optional)) fun _ => List.mem_rtakeWhile_imp
  rw [openPairs, Plan.parameters_ofParameters, rtakeWhile_append_of_optional _ hback,
    rtakeWhile_rdropWhile, List.nil_append, unrelatedPairs_iterate, openPairs]

/-- A list without unrelated pairs at its end is left as it is. -/
theorem Plan.parameters_of_openPairs_eq_zero (h : openPairs parameters = 0) :
    (Plan.ofParameters parameters).parameters = parameters := by
  rw [Plan.parameters_ofParameters, Function.iterate_fixed (widenFirst_of_related h),
    List.rdropWhile_append_rtakeWhile]

/-- Planning a list leaves it alone or settles some pair. -/
theorem Plan.openPairs_ofParameters_lt (h : openPairs parameters ≠ 0) :
    openPairs (Plan.ofParameters parameters).parameters < openPairs parameters := by
  rw [Plan.openPairs_ofParameters]
  have : 0 < 2 ^ conflicts (parameters.map Parameter.optional) := Nat.two_pow_pos _
  omega

/-! ## Changes at the end -/

/-- The second list is the first one with some parameters widened, each of which is optional and
followed by optional ones only, one at least. -/
structure WidenedAtEnd (parameters widened : List Parameter) : Prop where
  length : widened.length = parameters.length
  getElem? : ∀ place parameter, parameters[place]? = some parameter →
    widened[place]? = some parameter ∨
      widened[place]? = some parameter.widened ∧ place + 1 < parameters.length ∧
        ∀ other ∈ parameters.drop place, other.optional = true

namespace WidenedAtEnd

variable {widened last : List Parameter}

theorem refl (parameters : List Parameter) : WidenedAtEnd parameters parameters where
  length := rfl
  getElem? := fun _ _ => .inl

/-- What is optional stays so. -/
theorem optional (h : WidenedAtEnd parameters widened) :
    widened.map Parameter.optional = parameters.map Parameter.optional := by
  refine List.ext_getElem? fun place => ?_
  rw [List.getElem?_map, List.getElem?_map]
  cases hparameter : parameters[place]? with
  | none =>
      rw [List.getElem?_eq_none_iff, ← h.length, ← List.getElem?_eq_none_iff] at hparameter
      rw [hparameter]
  | some parameter =>
      rcases h.getElem? place parameter hparameter with hsame | ⟨hwidened, _⟩
      · rw [hsame]
      · rw [hwidened]
        rfl

theorem trans (hfirst : WidenedAtEnd parameters widened) (hnext : WidenedAtEnd widened last) :
    WidenedAtEnd parameters last where
  length := hnext.length.trans hfirst.length
  getElem? := by
    intro place parameter hparameter
    rcases hfirst.getElem? place parameter hparameter with hsame | ⟨hwidened, hend⟩
    · rcases hnext.getElem? place parameter hsame with hlast | ⟨hlast, hlt, hoptional⟩
      · exact .inl hlast
      · refine .inr ⟨hlast, hfirst.length ▸ hlt, optional_of_map_eq ?_ hoptional⟩
        rw [List.map_drop, List.map_drop, hfirst.optional]
    · right
      rcases hnext.getElem? place parameter.widened hwidened with hlast | ⟨hlast, _⟩
      · exact ⟨hlast, hend⟩
      · exact ⟨hlast, hend⟩

end WidenedAtEnd

theorem widenedAtEnd_widenFirst (front : List Parameter) {back : List Parameter}
    (hback : ∀ parameter ∈ back, parameter.optional = true) :
    WidenedAtEnd (front ++ back) (front ++ widenFirst back) := by
  fun_induction widenFirst back generalizing front with
  | case1 first second rest _ ih =>
      have hnext := ih (front ++ [first]) (List.forall_mem_cons.1 hback).2
      rwa [List.append_assoc, List.append_assoc] at hnext
  | case2 first second rest _ =>
      rw [← modify_append front first]
      refine ⟨List.length_modify .., ?_⟩
      intro place parameter hparameter
      rw [List.getElem?_modify, hparameter]
      by_cases hplace : front.length = place
      · right
        rw [← hplace, List.drop_left]
        exact ⟨by simp, by simp, hback⟩
      · left
        simp [hplace]
  | case3 | case4 => exact .refl _

theorem widenedAtEnd_iterate (front : List Parameter) {back : List Parameter}
    (hback : ∀ parameter ∈ back, parameter.optional = true) (count : Nat) :
    WidenedAtEnd (front ++ back) (front ++ widenFirst^[count] back) := by
  induction count with
  | zero => exact .refl _
  | succ count ih =>
      rw [Function.iterate_succ_apply']
      exact ih.trans (widenedAtEnd_widenFirst front
        (optional_of_map_eq (optional_iterate count back) hback))

/-- Planning changes types at the optional end only. -/
theorem Plan.widenedAtEnd_ofParameters (parameters : List Parameter) :
    WidenedAtEnd parameters (Plan.ofParameters parameters).parameters := by
  have hend : ∀ parameter ∈ parameters.rtakeWhile Parameter.optional,
      parameter.optional = true := fun _ => List.mem_rtakeWhile_imp
  have hrun := widenedAtEnd_iterate (parameters.rdropWhile Parameter.optional) hend
    (2 ^ conflicts (parameters.map Parameter.optional))
  rwa [List.rdropWhile_append_rtakeWhile, ← Plan.parameters_ofParameters] at hrun

end Typings
