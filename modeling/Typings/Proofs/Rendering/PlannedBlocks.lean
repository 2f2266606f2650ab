import Typings.Proofs.Overload.Places
import Typings.Proofs.Rendering.Emission

/-!
# Blocks of planned overloads

A plan is finished before anything of it is shown. So the blocks of one emission differ in front of
the optional end of the parameter list only, and show its optional end as the whole plan leaves it.

* `frontParameters`: the parameters that a choice leaves in front of the optional end;
* `Plan.parameterLists_ofParameters`, `Plan.parameterLists_afterPlans`: the parameter lists of a
  plan, one for each choice;
* `Method.blockText`, `Method.blocks_afterPlans`: the blocks of a method after a number of
  emissions;
* `afterPlans_exact`: which parameters are widened after a number of plans, and what the blocks show
  of them.
-/

namespace Typings

open Slot

variable {parameters front back : List Parameter}

/-! ## Parameter lists -/

/-- The parameters that a choice for its optional runs leaves in front of the optional end of a
list. -/
def frontParameters (parameters : List Parameter) (choice : List Bool) : List Parameter :=
  (resolve (runs (frontSlots parameters)) choice).filterMap
    (Slot.read? (parameters.rdropWhile Parameter.optional))

theorem filterMap_read?_ofParameters (front back : List Parameter) :
    (Slot.ofParameters front.length back).filterMap (Slot.read? (front ++ back)) = back := by
  induction back generalizing front with
  | nil => rfl
  | cons first rest ih =>
      have hfirst : (if first.optional then Slot.optional front.length
          else Slot.required front.length).read? (front ++ first :: rest) = some first := by
        split <;> simp [Slot.read?, Slot.position]
      have hrest := ih (front ++ [first])
      rw [List.length_append, List.length_singleton, List.append_assoc,
        List.singleton_append] at hrest
      rw [Slot.ofParameters, List.filterMap_cons, hfirst, hrest]

theorem read?_append {slot : Slot} (hlt : slot.position < front.length) :
    slot.read? (front ++ back) = slot.read? front := by
  cases slot with
  | required position => exact List.getElem?_append_left hlt
  | optional position => exact List.getElem?_append_left hlt
  | promoted position =>
      exact congrArg (Option.map Parameter.required) (List.getElem?_append_left hlt)

theorem position_lt_of_mem_resolve {slot : Slot} {choice : List Bool}
    (hmem : slot ∈ resolve (runs (frontSlots parameters)) choice) :
    slot.position < (parameters.rdropWhile Parameter.optional).length := by
  have hfront : ∀ old ∈ frontSlots parameters,
      old.position < (parameters.rdropWhile Parameter.optional).length := by
    intro old hold
    have hposition : old.position ∈ (frontSlots parameters).map Slot.position :=
      List.mem_map_of_mem hold
    rw [frontSlots, position_ofParameters, List.mem_range'_1, Nat.zero_add] at hposition
    exact hposition.2
  rcases mem_resolve_frontSlots hmem with ⟨hold, _⟩ | ⟨old, hold, _, rfl⟩
  · exact hfront slot hold
  · rw [position_promote]
    exact hfront old hold

/-- A parameter list of a plan holds what a choice leaves of the front, and then the optional end as
the whole plan leaves it. -/
theorem Plan.parameterLists_ofParameters (parameters : List Parameter) :
    (Plan.ofParameters parameters).parameterLists =
      (choices (conflicts (parameters.map Parameter.optional))).map fun choice =>
        frontParameters parameters choice ++ (Plan.ofParameters parameters).parameters.drop
          (parameters.rdropWhile Parameter.optional).length := by
  set front := parameters.rdropWhile Parameter.optional with hfront
  obtain ⟨back, hback, hplanned⟩ : ∃ back,
      back.map Parameter.optional =
        (parameters.rtakeWhile Parameter.optional).map Parameter.optional ∧
      (Plan.ofParameters parameters).parameters = front ++ back :=
    ⟨_, optional_iterate _ _, Plan.parameters_ofParameters parameters⟩
  have hoverloads : (Plan.ofParameters parameters).overloads =
      (choices (conflicts (parameters.map Parameter.optional))).map (overload parameters) :=
    splitOverloads_ofParameters parameters
  rw [Plan.parameterLists, hoverloads, List.map_map, hplanned, List.drop_left]
  apply List.map_congr_left
  intro choice _
  have hbegin : (resolve (runs (frontSlots parameters)) choice).filterMap
      (Slot.read? (front ++ back)) = frontParameters parameters choice := by
    apply List.filterMap_congr
    intro slot hslot
    exact read?_append (position_lt_of_mem_resolve hslot)
  have hend : (trailingSlots parameters).filterMap (Slot.read? (front ++ back)) = back := by
    rw [trailingSlots, ← ofParameters_congr hback]
    exact filterMap_read?_ofParameters front back
  rw [Function.comp_apply, overload, List.filterMap_append, hbegin, hend]

/-- The parameter lists of a plan that comes after a number of others. -/
theorem Plan.parameterLists_afterPlans (parameters : List Parameter) (count : Nat) :
    (Plan.ofParameters (afterPlans count parameters)).parameterLists =
      (choices (conflicts (parameters.map Parameter.optional))).map fun choice =>
        frontParameters parameters choice ++ (afterPlans (count + 1) parameters).drop
          (parameters.rdropWhile Parameter.optional).length := by
  have hfront : ∀ choice, frontParameters (afterPlans count parameters) choice =
      frontParameters parameters choice := by
    intro choice
    simp only [frontParameters, frontSlots, rdropWhile_afterPlans]
  rw [Plan.parameterLists_ofParameters, optional_afterPlans, rdropWhile_afterPlans,
    afterPlans_succ]
  simp only [hfront]

/-! ## Blocks -/

namespace Method

variable {config : Config} {method : Method} {declarator : String}

/-- The text of a block. The tags of its comment and its signature show the same parameters. -/
def blockText (method : Method) (declarator : String) (parameters : List Parameter) : String :=
  "\n".intercalate (Comment.format method.description (tags parameters method.outcome) ++
    [declarator ++ method.name ++ "(" ++
      ", ".intercalate (parameters.map Parameter.signature) ++ ")" ++
      (if method.isConstructor then "" else ": " ++ method.outcome.type) ++ ";"])

theorem block_eq_blockText (hdeclarator : method.declarator = .ok declarator)
    (parameters : List Parameter) :
    method.block method.description parameters method.outcome =
      .ok (method.blockText declarator parameters) := by
  rw [block, signature, hdeclarator]
  rfl

theorem exists_compatibilityBlocks (config : Config)
    (hdeclarator : method.declarator = .ok declarator) :
    ∃ additional, method.compatibilityBlocks config = .ok additional := by
  rw [compatibilityBlocks, block, signature, hdeclarator]
  split
  · exact ⟨_, rfl⟩
  · exact ⟨[], rfl⟩

/-- Emissions of a method that is not left out plan its overloads again and again. -/
theorem afterBlocks_eq_afterPlans (hkept : method.isDropped config = false) (count : Nat) :
    (afterBlocks config)^[count] method =
      { method with parameters := afterPlans count method.parameters } := by
  induction count with
  | zero => rfl
  | succ count ih =>
      have hstill : isDropped config
          { method with parameters := afterPlans count method.parameters } = false := hkept
      rw [Function.iterate_succ_apply', ih, afterBlocks, hstill, afterPlans_succ]
      rfl

/-- The blocks of a method after a number of emissions: one for each choice, with the optional end
of the parameters as one more plan leaves it, and then the additional ones. -/
theorem blocks_afterPlans (hkept : method.isDropped config = false)
    (hdeclarator : method.declarator = .ok declarator) (count : Nat) :
    ∃ additional, method.compatibilityBlocks config = .ok additional ∧
      ((afterBlocks config)^[count] method).blocks config =
        .ok ((choices (conflicts (method.parameters.map Parameter.optional))).map (fun choice =>
          method.blockText declarator (frontParameters method.parameters choice ++
            (afterPlans (count + 1) method.parameters).drop
              (method.parameters.rdropWhile Parameter.optional).length)) ++ additional) := by
  obtain ⟨additional, hadditional⟩ := exists_compatibilityBlocks config hdeclarator
  refine ⟨additional, hadditional, ?_⟩
  set emitted : Method := { method with parameters := afterPlans count method.parameters }
    with hemitted
  have hstill : emitted.isDropped config = false := hkept
  have hblock : (fun parameters => emitted.block emitted.description parameters emitted.outcome) =
      fun parameters => pure (method.blockText declarator parameters) := by
    funext parameters
    exact block_eq_blockText hdeclarator parameters
  have hmore : emitted.compatibilityBlocks config = .ok additional := hadditional
  rw [afterBlocks_eq_afterPlans hkept, blocks, hstill, hblock, List.mapM_pure, hmore,
    Plan.parameterLists_afterPlans, List.map_map]
  rfl

end Method

/-! ## Which parameters are widened -/

theorem not_mem_unrelatedPlaces {place : Nat} {parameter : Parameter}
    (hparameter : parameters[place]? = some parameter)
    (hfixed : place + 1 = parameters.length ∨
      ∃ later ∈ parameters.drop place, later.optional = false) :
    place ∉ unrelatedPlaces parameters := by
  intro hmem
  have hunrelated := (List.mem_filter.1 hmem).2
  rw [isUnrelatedAt, Bool.and_eq_true] at hunrelated
  rcases hfixed with hlast | ⟨later, hlater, hrequired⟩
  · -- nothing follows the last parameter
    have hdrop : parameters.drop place = [parameter] := by
      obtain ⟨hlt, heq⟩ := List.getElem?_eq_some_iff.1 hparameter
      rw [List.drop_eq_getElem_cons hlt, heq, List.drop_of_length_le hlast.ge]
    rw [hdrop] at hunrelated
    cases hunrelated.2
  · have hoptional := List.all_eq_true.1 hunrelated.1 later hlater
    rw [hrequired] at hoptional
    cases hoptional

/-- After a number of plans, the parameters of the first unrelated places are widened, one for each
overload of each plan as long as there are such places, and nothing else has changed. So the last
parameter stays as it is, and so does every one that is required or stands in front of a required
one. All blocks of an emission show the parameters of the optional end alike, in their signatures and
in their comments. -/
theorem afterPlans_exact (parameters : List Parameter) (count : Nat) :
    let splits := conflicts (parameters.map Parameter.optional)
    let places := unrelatedPlaces parameters
    let start := (parameters.rdropWhile Parameter.optional).length
    afterPlans count parameters =
      widenAt (places.take (min (count * 2 ^ splits) places.length)) parameters ∧
    (∀ place parameter, parameters[place]? = some parameter →
      (place + 1 = parameters.length ∨ ∃ later ∈ parameters.drop place, later.optional = false) →
        (afterPlans count parameters)[place]? = some parameter) ∧
    ∀ (config : Config) (method : Method) declarator, method.parameters = parameters →
      method.isDropped config = false → method.declarator = .ok declarator →
        ∃ additional, method.compatibilityBlocks config = .ok additional ∧
          ((Method.afterBlocks config)^[count] method).blocks config =
            .ok ((choices splits).map (fun choice =>
              method.blockText declarator (frontParameters parameters choice ++
                (afterPlans (count + 1) parameters).drop start)) ++ additional) := by
  intro splits places start
  have hwidened : afterPlans count parameters =
      widenAt (places.take (count * 2 ^ splits)) parameters :=
    afterPlans_eq_widenAt count parameters
  refine ⟨?_, ?_, ?_⟩
  · rw [hwidened, ← List.take_eq_take_min]
  · intro place parameter hparameter hfixed
    have hnot : place ∉ places.take (count * 2 ^ splits) := fun hmem =>
      not_mem_unrelatedPlaces hparameter hfixed (List.mem_of_mem_take hmem)
    rw [hwidened, getElem?_widenAt, hparameter, Option.map_some, if_neg hnot]
  · rintro config method declarator rfl hkept hdeclarator
    exact Method.blocks_afterPlans hkept hdeclarator count

/-- A method with an optional parameter in front of a required one and four optional ones behind it,
no two of which have the same type. -/
def subscription : Method where
  name := "attach"
  fullName := "x.Model.attach"
  ownerName := "x.Model"
  ownerKind := .classType
  parameters :=
    [{ name := "data", type := "object", optional := true },
      { name := "handler", type := "function" },
      { name := "listener", type := "object", optional := true },
      { name := "once", type := "boolean", optional := true },
      { name := "id", type := "string", optional := true },
      { name := "priority", type := "int", optional := true }]

/-- Of the three unrelated parameters the first plan widens two, because there are two overloads, and
the second plan the last one. The first emission shows both overloads with the same end. -/
theorem afterPlans_exact_subscription :
    subscription.isDropped {} = false ∧ subscription.declarator = .ok "public " ∧
      unrelatedPlaces subscription.parameters = [2, 3, 4] ∧
      (afterPlans 1 subscription.parameters).map (·.type) =
        ["object", "function", "any", "any", "string", "int"] ∧
      (afterPlans 2 subscription.parameters).map (·.type) =
        ["object", "function", "any", "any", "any", "int"] ∧
      subscription.blocks {} = .ok
        ["/**\n * @param \x7bfunction\x7d handler\n * @param \x7bany\x7d [listener]\n" ++
          " * @param \x7bany\x7d [once]\n * @param \x7bstring\x7d [id]\n" ++
          " * @param \x7bint\x7d [priority]\n */\n" ++
          "public attach(handler: function, listener?: any, once?: any, id?: string, " ++
          "priority?: int): void;",
        "/**\n * @param \x7bobject\x7d data\n * @param \x7bfunction\x7d handler\n" ++
          " * @param \x7bany\x7d [listener]\n * @param \x7bany\x7d [once]\n" ++
          " * @param \x7bstring\x7d [id]\n * @param \x7bint\x7d [priority]\n */\n" ++
          "public attach(data: object, handler: function, listener?: any, once?: any, " ++
          "id?: string, priority?: int): void;"] := by
  have hkept : subscription.isDropped {} = false := by decide +kernel
  have hdeclarator : subscription.declarator = .ok "public " := by decide +kernel
  have hnone : subscription.compatibilityBlocks {} = .ok [] := by decide +kernel
  obtain ⟨_, _, hemission⟩ := afterPlans_exact subscription.parameters 0
  obtain ⟨additional, hadditional, hblocks⟩ :=
    hemission {} subscription "public " rfl hkept hdeclarator
  obtain rfl : [] = additional := Except.ok.inj (hnone.symm.trans hadditional)
  refine ⟨hkept, hdeclarator, by decide +kernel, ?_, ?_, hblocks.trans ?_⟩
  · rw [(afterPlans_exact subscription.parameters 1).1]
    decide +kernel
  · rw [(afterPlans_exact subscription.parameters 2).1]
    decide +kernel
  · decide +kernel

end Typings
