import Typings.Proofs.Rendering.PlannedBlocks
import Typings.Proofs.Rendering.SameBlocks

/-!
# Planning again

A plan shows what it has widened, and the next plan of the same parameters goes on where it ended.
So the next plan shows the same texts exactly when no unrelated pair was left.

* `Plan.texts`: what is shown of the parameters of a plan;
* `eq_of_tag_eq`: widened parameters with the same tags are the same parameters;
* `afterPlans_succ_eq_iff`: when one more plan changes nothing;
* `Plan.texts_afterPlans_eq_iff`: when it shows the same texts;
* `Method.SettledAtOnce`: methods that are at rest after one emission;
* `planning_repeats_iff`: plans, methods and libraries that are shown again.
-/

namespace Typings

variable {parameters widened : List Parameter}

/-! ## Tags -/

namespace Parameter

/-- What a tag shows behind the type and its brace. -/
def tagEnd (parameter : Parameter) : List Char :=
  let name := if parameter.optional then "[" ++ parameter.name ++ "]" else parameter.name
  Text.trimRight (" " ++ name ++ " " ++ parameter.description).toList

theorem toList_tag (parameter : Parameter) :
    parameter.tag.toList =
      "@param \x7b".toList ++ parameter.type.toList ++ '}' :: parameter.tagEnd := by
  have htag : parameter.tag.toList = Text.trimRight
      ("@param \x7b".toList ++ parameter.type.toList ++ '}' :: (" " ++
        (if parameter.optional then "[" ++ parameter.name ++ "]" else parameter.name) ++ " " ++
          parameter.description).toList) := by
    simp [tag, trimmedTag]
  rw [htag, Text.trimRight_append_cons _ _ (by decide), tagEnd]

/-- Widening shows in the tag of a parameter, unless its type is `any` already. -/
theorem widened_eq_of_tag_eq {parameter : Parameter}
    (htag : parameter.widened.tag = parameter.tag) : parameter.widened = parameter := by
  have hchars := congrArg String.toList htag
  rw [toList_tag, toList_tag] at hchars
  have hsame : parameter.widened.tagEnd = parameter.tagEnd := rfl
  rw [hsame, List.append_cancel_right_eq, List.append_cancel_left_eq] at hchars
  have htype : anyType = parameter.type := String.toList_injective hchars
  rw [widened, htype]

end Parameter

/-- Widened parameters with the same tags are the same parameters. -/
theorem WidenedAtEnd.eq_of_tag_eq (h : WidenedAtEnd parameters widened)
    (htags : widened.map Parameter.tag = parameters.map Parameter.tag) : widened = parameters := by
  apply List.ext_getElem?
  intro place
  have htag : widened[place]?.map Parameter.tag = parameters[place]?.map Parameter.tag := by
    rw [← List.getElem?_map, htags, List.getElem?_map]
  cases hparameter : parameters[place]? with
  | none =>
      rw [hparameter] at htag
      exact Option.map_eq_none_iff.1 htag
  | some parameter =>
      rcases h.getElem? place parameter hparameter with hsame | ⟨hwidened, _⟩
      · exact hsame
      · rw [hparameter, hwidened] at htag
        rw [hwidened, Parameter.widened_eq_of_tag_eq (Option.some.inj htag)]

/-! ## Plans without effect -/

theorem openPairs_afterPlans (count : Nat) (parameters : List Parameter) :
    openPairs (afterPlans count parameters) =
      openPairs parameters - count * 2 ^ conflicts (parameters.map Parameter.optional) := by
  induction count with
  | zero =>
      rw [Nat.zero_mul, Nat.sub_zero]
      rfl
  | succ count ih =>
      rw [afterPlans_succ, Plan.openPairs_ofParameters, ih, optional_afterPlans, Nat.sub_sub,
        Nat.succ_mul]

/-- One more plan changes nothing when the plans so far have settled all unrelated pairs. -/
theorem afterPlans_succ_eq_iff (count : Nat) (parameters : List Parameter) :
    afterPlans (count + 1) parameters = afterPlans count parameters ↔
      (unrelatedPlaces parameters).length ≤
        count * 2 ^ conflicts (parameters.map Parameter.optional) := by
  rw [length_unrelatedPlaces, ← Nat.sub_eq_zero_iff_le, ← openPairs_afterPlans, afterPlans_succ]
  constructor
  · intro hsame
    by_contra hopen
    have hlt := Plan.openPairs_ofParameters_lt hopen
    rw [hsame] at hlt
    exact Nat.lt_irrefl _ hlt
  · exact Plan.parameters_of_openPairs_eq_zero

/-! ## Texts of plans -/

/-- What is shown of the parameters of a plan: their texts in signatures and in comments. -/
def Plan.texts (plan : Plan) : List (List (String × String)) :=
  plan.parameterLists.map (List.map fun parameter => (parameter.signature, parameter.tag))

theorem eq_append_drop_afterPlans (count : Nat) (parameters : List Parameter) :
    afterPlans count parameters = parameters.rdropWhile Parameter.optional ++
      (afterPlans count parameters).drop (parameters.rdropWhile Parameter.optional).length := by
  have hsplit := List.rdropWhile_append_rtakeWhile (p := Parameter.optional)
    (l := afterPlans count parameters)
  rw [rdropWhile_afterPlans] at hsplit
  rw [← hsplit, List.drop_left]

/-- A plan that comes after a number of others shows the same texts as the one before it, exactly
when there were no more unrelated pairs than widenings. -/
theorem Plan.texts_afterPlans_eq_iff (count : Nat) (parameters : List Parameter) :
    (ofParameters (afterPlans (count + 1) parameters)).texts =
        (ofParameters (afterPlans count parameters)).texts ↔
      (unrelatedPlaces parameters).length ≤
        (count + 1) * 2 ^ conflicts (parameters.map Parameter.optional) := by
  rw [← afterPlans_succ_eq_iff, texts, texts, parameterLists_afterPlans,
    parameterLists_afterPlans]
  constructor
  · intro htexts
    rw [List.map_map, List.map_map, List.map_inj_left] at htexts
    -- every overload shows the optional end, so any of them tells the two plans apart
    have hchoice : List.replicate (conflicts (parameters.map Parameter.optional)) false ∈
        choices (conflicts (parameters.map Parameter.optional)) :=
      mem_choices.2 List.length_replicate
    have hend := htexts _ hchoice
    rw [Function.comp_apply, Function.comp_apply, List.map_append, List.map_append,
      List.append_cancel_left_eq] at hend
    have htags := congrArg (List.map Prod.snd) hend
    rw [List.map_map, List.map_map] at htags
    have hwidened : WidenedAtEnd (afterPlans (count + 1) parameters)
        (afterPlans (count + 1 + 1) parameters) := by
      rw [afterPlans_succ (count + 1)]
      exact widenedAtEnd_ofParameters _
    apply hwidened.eq_of_tag_eq
    rw [eq_append_drop_afterPlans (count + 1 + 1), eq_append_drop_afterPlans (count + 1),
      List.map_append, List.map_append]
    exact congrArg _ htags
  · intro hsame
    rw [hsame]

/-- The first plan of three optional parameters without a common type widens one of them, and the
second plan another one. -/
theorem Plan.second_plan_widens_more :
    let parameters : List Parameter :=
      [{ name := "id", type := "string", optional := true },
        { name := "index", type := "int", optional := true },
        { name := "settings", type := "object", optional := true }]
    (ofParameters parameters).texts =
        [[("id?: any", "@param \x7bany\x7d [id]"), ("index?: int", "@param \x7bint\x7d [index]"),
          ("settings?: object", "@param \x7bobject\x7d [settings]")]] ∧
      (ofParameters (ofParameters parameters).parameters).texts =
        [[("id?: any", "@param \x7bany\x7d [id]"), ("index?: any", "@param \x7bany\x7d [index]"),
          ("settings?: object", "@param \x7bobject\x7d [settings]")]] ∧
      (ofParameters (ofParameters parameters).parameters).texts ≠
        (ofParameters parameters).texts := by
  decide +kernel

/-! ## Methods and libraries that are shown again -/

/-- One emission settles a method: it is left out, or it has no more unrelated pairs than
overloads. -/
def Method.SettledAtOnce (config : Config) (method : Method) : Prop :=
  method.isDropped config = true ∨
    (unrelatedPlaces method.parameters).length ≤
      2 ^ conflicts (method.parameters.map Parameter.optional)

theorem Method.blocks_afterBlocks {config : Config} {method : Method}
    (h : method.SettledAtOnce config) :
    (method.afterBlocks config).blocks config = method.blocks config := by
  by_cases hdropped : method.isDropped config = true
  · rw [afterBlocks, if_pos hdropped]
  · have hfew := h.resolve_left hdropped
    rw [← Nat.one_mul (2 ^ _), ← afterPlans_succ_eq_iff] at hfew
    -- the second plan finds what the first one left, and shows the same lists
    have hlists :
        (Plan.ofParameters (Plan.ofParameters method.parameters).parameters).parameterLists =
          (Plan.ofParameters method.parameters).parameterLists := by
      have hfirst := Plan.parameterLists_afterPlans method.parameters 0
      have hsecond := Plan.parameterLists_afterPlans method.parameters 1
      rw [hfew] at hsecond
      exact hsecond.trans hfirst.symm
    have hstill : isDropped config
        { method with parameters := (Plan.ofParameters method.parameters).parameters } =
          method.isDropped config := rfl
    rw [afterBlocks, if_neg hdropped, blocks, hstill, hlists]
    rfl

theorem Definitions.after_eq_map (config : Config) (library : Option String) (forest : Forest) :
    after config library forest = forest.map fun d =>
      d.mapMethods (if owned library d then Method.afterBlocks config else id) := by
  rw [after]
  refine congrArg forest.map (funext fun d => ?_)
  split
  case isTrue => rfl
  case isFalse => rw [Declaration.mapMethods, Body.mapMethods_id]

/-- The definitions of a library are the same a second time when one emission settles each of the
methods that they show. -/
theorem Definitions.text_after_of_settledAtOnce {config : Config} {library : Option String}
    {forest : Forest}
    (h : ∀ d ∈ forest.walk, owned library d = true →
      ∀ method ∈ d.callables, method.SettledAtOnce config) :
    text config library (after config library forest) = text config library forest := by
  rw [after_eq_map]
  refine text_mapMethods ?_
  intro d hd howned method hmethod
  simp only [if_pos howned]
  exact Method.blocks_afterBlocks (h d hd howned method hmethod)

/-- Planning the same parameters again shows the same texts exactly when the plans before have
widened a parameter of every unrelated pair. So a method has the same blocks when it is emitted a
second time, and a library the same definitions, as long as one emission settles the methods that
are shown. -/
theorem planning_repeats_iff (parameters : List Parameter) (count : Nat) (config : Config) :
    ((Plan.ofParameters (afterPlans (count + 1) parameters)).texts =
        (Plan.ofParameters (afterPlans count parameters)).texts ↔
      (unrelatedPlaces parameters).length ≤
        (count + 1) * 2 ^ conflicts (parameters.map Parameter.optional)) ∧
    (∀ method : Method, method.SettledAtOnce config →
      (method.afterBlocks config).blocks config = method.blocks config) ∧
    ∀ (library : Option String) (forest : Forest),
      (∀ d ∈ forest.walk, Definitions.owned library d = true →
        ∀ method ∈ d.callables, method.SettledAtOnce config) →
      Definitions.text config library (Definitions.after config library forest) =
        Definitions.text config library forest :=
  ⟨Plan.texts_afterPlans_eq_iff count parameters, fun _ => Method.blocks_afterBlocks,
    fun _ _ => Definitions.text_after_of_settledAtOnce⟩

/-- A class with a constructor that takes an identifier, settings, or both. -/
def dialog : Declaration where
  fullName := "x.Dialog"
  library := "x"
  body := .classType none []
    (some
      { name := constructorName, fullName := "x.Dialog.constructor", ownerName := "x.Dialog"
        ownerKind := .classType
        parameters :=
          [{ name := "id", type := "string", optional := true },
            { name := "settings", type := "object", optional := true }] })
    {}

/-- The constructor is shown with a widened identifier, the second time as the first time. -/
theorem planning_repeats_iff_dialog :
    let forest := Forest.grow dialog .empty .empty
    let shown := "declare class Dialog \x7b\n    /**\n     * @param \x7bany\x7d [id]\n" ++
      "     * @param \x7bobject\x7d [settings]\n     */\n" ++
      "    public constructor(id?: any, settings?: object);\n\x7d\n"
    (∀ d ∈ forest.walk, Definitions.owned (some "x") d = true →
        ∀ method ∈ d.callables, method.SettledAtOnce {} ∧
          (method.afterBlocks {}).blocks {} = method.blocks {} ∧
          (Plan.ofParameters (afterPlans 1 method.parameters)).texts =
            (Plan.ofParameters method.parameters).texts) ∧
      Definitions.text {} (some "x") forest = .ok shown ∧
      Definitions.text {} (some "x") (Definitions.after {} (some "x") forest) = .ok shown := by
  intro forest shown
  have hpairs : ∀ d ∈ forest.walk, ∀ method ∈ d.callables,
      (unrelatedPlaces method.parameters).length ≤
        (0 + 1) * 2 ^ conflicts (method.parameters.map Parameter.optional) := by decide +kernel
  have hsettled : ∀ d ∈ forest.walk, ∀ method ∈ d.callables, method.SettledAtOnce {} := by
    intro d hd method hmethod
    have hfew := hpairs d hd method hmethod
    rw [Nat.zero_add, Nat.one_mul] at hfew
    exact .inr hfew
  have hfirst : Definitions.text {} (some "x") forest = .ok shown := by decide +kernel
  refine ⟨?_, hfirst, ?_⟩
  · intro d hd _ method hmethod
    obtain ⟨htexts, hblocks, _⟩ := planning_repeats_iff method.parameters 0 {}
    exact ⟨hsettled d hd method hmethod, hblocks method (hsettled d hd method hmethod),
      htexts.2 (hpairs d hd method hmethod)⟩
  · obtain ⟨_, _, htext⟩ := planning_repeats_iff [] 0 {}
    rw [htext (some "x") forest fun d hd _ => hsettled d hd, hfirst]

end Typings
