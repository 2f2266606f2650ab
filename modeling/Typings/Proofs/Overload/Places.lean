import Typings.Proofs.Overload.Widening

/-!
# The parameters that planning widens

Planning the overloads of a list again and again widens parameters at its optional end, each of them
in front of one with an unrelated type, from the left to the right. Which ones are widened is told
by the number of plans.

* `isUnrelatedAt`, `unrelatedPlaces`: the places of the parameters in front of unrelated ones;
* `widenAt`: the parameters with those at some places widened;
* `iterate_widenFirst`: widenings of an optional end, told by places;
* `afterPlans`: the parameters after a number of plans;
* `afterPlans_eq_widenAt`: these parameters in closed form;
* `length_unrelatedPlaces`: the number of the places.
-/

namespace Typings

variable {parameters front back : List Parameter}

/-! ## Places -/

/-- Whether all parameters from a place on are optional and the first two of them have types that
differ, neither of which is `any`. -/
def isUnrelatedAt (parameters : List Parameter) (place : Nat) : Bool :=
  (parameters.drop place).all Parameter.optional &&
    match parameters.drop place with
    | one :: other :: _ => one.type ≠ other.type && one.type ≠ anyType && other.type ≠ anyType
    | _ => false

/-- The places of the parameters at the optional end of a list that stand in front of one with an
unrelated type. -/
def unrelatedPlaces (parameters : List Parameter) : List Nat :=
  (List.range parameters.length).filter (isUnrelatedAt parameters)

theorem isUnrelatedAt_zero {first second : Parameter}
    (hback : ∀ parameter ∈ first :: second :: back, parameter.optional = true) :
    isUnrelatedAt (first :: second :: back) 0 = !second.compatible first := by
  have hall : (first :: second :: back).all Parameter.optional = true := List.all_eq_true.2 hback
  rw [isUnrelatedAt, List.drop_zero, hall, Bool.true_and]
  by_cases hsame : first.type = second.type
  · simp [Parameter.compatible, hsame]
  · simp [Parameter.compatible, hsame, Ne.symm hsame, Bool.and_comm]

theorem unrelatedPlaces_cons (first : Parameter) (rest : List Parameter) :
    unrelatedPlaces (first :: rest) =
      (if isUnrelatedAt (first :: rest) 0 then [0] else []) ++
        (unrelatedPlaces rest).map (· + 1) := by
  have hrest : ((List.range rest.length).map Nat.succ).filter (isUnrelatedAt (first :: rest)) =
      (unrelatedPlaces rest).map (· + 1) := by
    rw [List.filter_map]
    rfl
  rw [unrelatedPlaces, List.length_cons, List.range_succ_eq_map, List.filter_cons, hrest]
  split <;> rfl

/-- Behind parameters that end with a required one, the places are those of the rest. -/
theorem unrelatedPlaces_append (hfront : ∀ last ∈ front.getLast?, last.optional = false) :
    unrelatedPlaces (front ++ back) = (unrelatedPlaces back).map (front.length + ·) := by
  have hnone : (List.range front.length).filter (isUnrelatedAt (front ++ back)) = [] := by
    rw [List.filter_eq_nil_iff]
    intro place hplace hunrelated
    have hlt : place < front.length := List.mem_range.1 hplace
    -- the last parameter of the front stands behind the place, and is required
    have hlast : ∃ last ∈ front.drop place, last.optional = false := by
      have hne : front.drop place ≠ [] := by
        rwa [Ne, List.drop_eq_nil_iff, Nat.not_le]
      refine ⟨(front.drop place).getLast hne, List.getLast_mem hne, hfront _ ?_⟩
      rw [List.getLast_drop]
      exact List.getLast_mem_getLast? _
    obtain ⟨last, hmem, hrequired⟩ := hlast
    rw [isUnrelatedAt, List.drop_append_of_le_length hlt.le, Bool.and_eq_true,
      List.all_append, Bool.and_eq_true] at hunrelated
    have hoptional : last.optional = true := List.all_eq_true.1 hunrelated.1.1 last hmem
    rw [hrequired] at hoptional
    cases hoptional
  have hshift : isUnrelatedAt (front ++ back) ∘ (front.length + ·) = isUnrelatedAt back := by
    funext place
    have hdrop : (front ++ back).drop (front.length + place) = back.drop place := by
      rw [← List.drop_drop, List.drop_left]
    rw [Function.comp_apply, isUnrelatedAt, hdrop, isUnrelatedAt]
  calc
    unrelatedPlaces (front ++ back)
      = (List.range front.length).filter (isUnrelatedAt (front ++ back)) ++
          ((List.range back.length).map (front.length + ·)).filter
            (isUnrelatedAt (front ++ back)) := by
        rw [unrelatedPlaces, List.length_append, List.range_add, List.filter_append]
    _ = ((List.range back.length).filter (isUnrelatedAt (front ++ back) ∘ (front.length + ·))).map
          (front.length + ·) := by
        rw [hnone, List.nil_append, List.filter_map]
    _ = (unrelatedPlaces back).map (front.length + ·) := by
        rw [hshift, unrelatedPlaces]

theorem length_unrelatedPlaces_of_optional
    (hback : ∀ parameter ∈ back, parameter.optional = true) :
    (unrelatedPlaces back).length = unrelatedPairs back := by
  fun_induction unrelatedPairs back with
  | case1 first second rest ih =>
      have hrest := ih (List.forall_mem_cons.1 hback).2
      rw [unrelatedPlaces_cons, isUnrelatedAt_zero hback, List.length_append, List.length_map,
        hrest]
      cases second.compatible first <;> rfl
  | case2 only => simp [unrelatedPlaces, isUnrelatedAt, List.range_succ]
  | case3 => rfl

/-! ## Widening at places -/

/-- The parameters with those at some places widened. -/
def widenAt (places : List Nat) (parameters : List Parameter) : List Parameter :=
  parameters.mapIdx fun place parameter =>
    if place ∈ places then parameter.widened else parameter

theorem getElem?_widenAt (places : List Nat) (parameters : List Parameter) (place : Nat) :
    (widenAt places parameters)[place]? =
      parameters[place]?.map fun parameter =>
        if place ∈ places then parameter.widened else parameter :=
  List.getElem?_mapIdx

theorem widenAt_nil (parameters : List Parameter) : widenAt [] parameters = parameters := by
  apply List.ext_getElem?
  intro place
  simp [getElem?_widenAt]

theorem widenAt_widenAt (places more : List Nat) (parameters : List Parameter) :
    widenAt more (widenAt places parameters) = widenAt (places ++ more) parameters := by
  apply List.ext_getElem?
  intro place
  simp only [getElem?_widenAt, Option.map_map, List.mem_append]
  congr 1
  funext parameter
  by_cases hplaces : place ∈ places
  · by_cases hmore : place ∈ more <;> simp [hplaces, hmore, Parameter.widened]
  · simp [hplaces]

theorem widenAt_append (places : List Nat) (front back : List Parameter) :
    widenAt (places.map (front.length + ·)) (front ++ back) = front ++ widenAt places back := by
  apply List.ext_getElem?
  intro place
  rw [getElem?_widenAt]
  by_cases hlt : place < front.length
  · have hnot : place ∉ places.map (front.length + ·) := by
      intro hmem
      obtain ⟨offset, _, rfl⟩ := List.mem_map.1 hmem
      omega
    simp [List.getElem?_append_left hlt, hnot]
  · obtain ⟨offset, rfl⟩ := Nat.exists_eq_add_of_le (Nat.not_lt.1 hlt)
    simp [List.getElem?_append_right, getElem?_widenAt]

theorem widenAt_head (first : Parameter) (rest : List Parameter) :
    widenAt [0] (first :: rest) = first.widened :: rest := by
  apply List.ext_getElem?
  intro place
  rw [getElem?_widenAt]
  cases place <;> simp

/-! ## The optional end of a list -/

theorem unrelatedPlaces_of_compatible {first second : Parameter}
    (hback : ∀ parameter ∈ first :: second :: back, parameter.optional = true)
    (hfits : second.compatible first = true) :
    unrelatedPlaces (first :: second :: back) = (unrelatedPlaces (second :: back)).map (· + 1) := by
  rw [unrelatedPlaces_cons, isUnrelatedAt_zero hback, hfits]
  rfl

theorem unrelatedPlaces_of_not_compatible {first second : Parameter}
    (hback : ∀ parameter ∈ first :: second :: back, parameter.optional = true)
    (hfits : ¬ second.compatible first = true) :
    unrelatedPlaces (first :: second :: back) =
      0 :: (unrelatedPlaces (second :: back)).map (· + 1) := by
  rw [unrelatedPlaces_cons, isUnrelatedAt_zero hback, Bool.eq_false_iff.2 hfits]
  rfl

theorem optional_of_widenFirst (hback : ∀ parameter ∈ back, parameter.optional = true) :
    ∀ parameter ∈ widenFirst back, parameter.optional = true :=
  optional_of_map_eq (optional_widenFirst back) hback

/-- One widening is the widening at the first place. -/
theorem widenFirst_eq_widenAt (hback : ∀ parameter ∈ back, parameter.optional = true) :
    widenFirst back = widenAt ((unrelatedPlaces back).take 1) back := by
  fun_induction widenFirst back with
  | case1 first second rest hfits ih =>
      have hrest := ih (List.forall_mem_cons.1 hback).2
      have hshift : (· + 1) = ([first].length + ·) := funext fun place => Nat.add_comm place 1
      rw [unrelatedPlaces_of_compatible hback hfits, ← List.map_take, hrest, hshift]
      exact (widenAt_append _ [first] (second :: rest)).symm
  | case2 first second rest hfits =>
      rw [unrelatedPlaces_of_not_compatible hback hfits, List.take_succ_cons, List.take_zero,
        widenAt_head]
  | case3 only => simp [unrelatedPlaces, isUnrelatedAt, List.range_succ, widenAt]
  | case4 => rfl

/-- One widening settles the first place and leaves the other ones open. -/
theorem unrelatedPlaces_widenFirst (hback : ∀ parameter ∈ back, parameter.optional = true) :
    unrelatedPlaces (widenFirst back) = (unrelatedPlaces back).tail := by
  fun_induction widenFirst back with
  | case1 first second rest hfits ih =>
      have hrest := ih (List.forall_mem_cons.1 hback).2
      have hoptional : ∀ parameter ∈ first :: widenFirst (second :: rest),
          parameter.optional = true :=
        List.forall_mem_cons.2 ⟨hback first List.mem_cons_self,
          optional_of_widenFirst (List.forall_mem_cons.1 hback).2⟩
      -- the second parameter fits the first one as it is, and widened as well
      have hstill : unrelatedPlaces (first :: widenFirst (second :: rest)) =
          (unrelatedPlaces (widenFirst (second :: rest))).map (· + 1) := by
        rcases exists_widenFirst_cons second rest with ⟨others, hsame | hwidened⟩
        · rw [hsame] at hoptional ⊢
          exact unrelatedPlaces_of_compatible hoptional hfits
        · rw [hwidened] at hoptional ⊢
          exact unrelatedPlaces_of_compatible hoptional (Parameter.widened_compatible second first)
      rw [hstill, hrest, unrelatedPlaces_of_compatible hback hfits, List.map_tail]
  | case2 first second rest hfits =>
      have hoptional : ∀ parameter ∈ first.widened :: second :: rest,
          parameter.optional = true :=
        List.forall_mem_cons.2 ⟨hback first List.mem_cons_self, (List.forall_mem_cons.1 hback).2⟩
      rw [unrelatedPlaces_of_compatible hoptional (Parameter.compatible_widened second first),
        unrelatedPlaces_of_not_compatible hback hfits, List.tail_cons]
  | case3 only => simp [unrelatedPlaces, isUnrelatedAt, List.range_succ]
  | case4 => rfl

/-- A number of widenings is the widening at as many places, the first ones of the list. -/
theorem iterate_widenFirst (hback : ∀ parameter ∈ back, parameter.optional = true)
    (count : Nat) :
    widenFirst^[count] back = widenAt ((unrelatedPlaces back).take count) back := by
  induction count generalizing back with
  | zero => exact (widenAt_nil back).symm
  | succ count ih =>
      have htake : (unrelatedPlaces back).take 1 ++ (unrelatedPlaces back).tail.take count =
          (unrelatedPlaces back).take (count + 1) := by
        cases unrelatedPlaces back <;> simp
      calc
        widenFirst^[count + 1] back
          = widenAt ((unrelatedPlaces back).tail.take count) (widenFirst back) := by
            rw [Function.iterate_succ_apply, ih (optional_of_widenFirst hback),
              unrelatedPlaces_widenFirst hback]
        _ = widenAt ((unrelatedPlaces back).take (count + 1)) back := by
            rw [widenFirst_eq_widenAt hback, widenAt_widenAt, htake]

/-! ## Plan after plan -/

/-- The parameters after their overloads were planned a number of times. -/
def afterPlans (count : Nat) (parameters : List Parameter) : List Parameter :=
  (fun parameters => (Plan.ofParameters parameters).parameters)^[count] parameters

theorem afterPlans_succ (count : Nat) (parameters : List Parameter) :
    afterPlans (count + 1) parameters =
      (Plan.ofParameters (afterPlans count parameters)).parameters :=
  Function.iterate_succ_apply' ..

theorem rdropWhile_append_of_optional (parameters : List Parameter)
    (hback : ∀ parameter ∈ back, parameter.optional = true) :
    (parameters ++ back).rdropWhile Parameter.optional =
      parameters.rdropWhile Parameter.optional := by
  rw [List.rdropWhile, List.reverse_append, List.dropWhile_append_of_pos, List.rdropWhile]
  intro parameter hmem
  exact hback parameter (List.mem_reverse.1 hmem)

section Widened

variable (parameters) (count : Nat)

/-- The parameters after a number of widenings at their optional end. -/
def afterWidenings : List Parameter :=
  parameters.rdropWhile Parameter.optional ++
    widenFirst^[count] (parameters.rtakeWhile Parameter.optional)

theorem optional_of_mem_iterate :
    ∀ parameter ∈ widenFirst^[count] (parameters.rtakeWhile Parameter.optional),
      parameter.optional = true :=
  optional_of_map_eq (optional_iterate count _) fun _ => List.mem_rtakeWhile_imp

theorem optional_afterWidenings :
    (afterWidenings parameters count).map Parameter.optional =
      parameters.map Parameter.optional := by
  rw [afterWidenings, List.map_append, optional_iterate, ← List.map_append,
    List.rdropWhile_append_rtakeWhile]

/-- Widenings keep the parameters in front of the optional end. -/
theorem rdropWhile_afterWidenings :
    (afterWidenings parameters count).rdropWhile Parameter.optional =
      parameters.rdropWhile Parameter.optional := by
  rw [afterWidenings, rdropWhile_append_of_optional _ (optional_of_mem_iterate parameters count),
    List.rdropWhile_idempotent]

theorem rtakeWhile_afterWidenings :
    (afterWidenings parameters count).rtakeWhile Parameter.optional =
      widenFirst^[count] (parameters.rtakeWhile Parameter.optional) := by
  rw [afterWidenings, rtakeWhile_append_of_optional _ (optional_of_mem_iterate parameters count),
    rtakeWhile_rdropWhile, List.nil_append]

/-- Every plan widens as often as the list has overloads. -/
theorem afterPlans_eq_afterWidenings :
    afterPlans count parameters =
      afterWidenings parameters (count * 2 ^ conflicts (parameters.map Parameter.optional)) := by
  induction count with
  | zero =>
      rw [afterWidenings, Nat.zero_mul, Function.iterate_zero_apply,
        List.rdropWhile_append_rtakeWhile]
      rfl
  | succ count ih =>
      -- the plans so far have kept what is optional, and with it the number of overloads
      rw [afterPlans_succ, ih, Plan.parameters_ofParameters, rdropWhile_afterWidenings,
        rtakeWhile_afterWidenings, optional_afterWidenings, ← Function.iterate_add_apply,
        afterWidenings, Nat.succ_mul, Nat.add_comm (count * _)]

theorem optional_afterPlans :
    (afterPlans count parameters).map Parameter.optional = parameters.map Parameter.optional := by
  rw [afterPlans_eq_afterWidenings, optional_afterWidenings]

theorem rdropWhile_afterPlans :
    (afterPlans count parameters).rdropWhile Parameter.optional =
      parameters.rdropWhile Parameter.optional := by
  rw [afterPlans_eq_afterWidenings, rdropWhile_afterWidenings]

end Widened

/-! ## Plans in closed form -/

theorem unrelatedPlaces_eq_map (parameters : List Parameter) :
    unrelatedPlaces parameters =
      (unrelatedPlaces (parameters.rtakeWhile Parameter.optional)).map
        ((parameters.rdropWhile Parameter.optional).length + ·) := by
  rw [← unrelatedPlaces_append (optional_getLast?_rdropWhile parameters),
    List.rdropWhile_append_rtakeWhile]

/-- There are as many places as unrelated pairs at the end of a list. -/
theorem length_unrelatedPlaces (parameters : List Parameter) :
    (unrelatedPlaces parameters).length = openPairs parameters := by
  rw [unrelatedPlaces_eq_map, List.length_map, openPairs]
  exact length_unrelatedPlaces_of_optional fun _ => List.mem_rtakeWhile_imp

/-- Plan after plan widens the parameters at the first places, one for each overload of each
plan. -/
theorem afterPlans_eq_widenAt (count : Nat) (parameters : List Parameter) :
    afterPlans count parameters =
      widenAt ((unrelatedPlaces parameters).take
        (count * 2 ^ conflicts (parameters.map Parameter.optional))) parameters := by
  have hoptional : ∀ parameter ∈ parameters.rtakeWhile Parameter.optional,
      parameter.optional = true := fun _ => List.mem_rtakeWhile_imp
  rw [afterPlans_eq_afterWidenings, afterWidenings, iterate_widenFirst hoptional, ← widenAt_append,
    List.map_take, ← unrelatedPlaces_eq_map, List.rdropWhile_append_rtakeWhile]

end Typings
