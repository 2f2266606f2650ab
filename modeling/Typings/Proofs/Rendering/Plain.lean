import Typings.Proofs.Rendering.SameBlocks
import Typings.Rendering.Exports

/-!
# Texts without notes of default values

No text of a tree shows whether a parameter has a default value.

* `Plan.parameterLists_plain`, `Method.blocks_plain`: overloads and blocks without the notes;
* `Definitions.text_plain`, `Definitions.after_plain`: definitions without them;
* `Exports.text_plain`, `Exports.text_after`: exports, which do not look at methods at all.
-/

namespace Typings

/-! ## Overloads -/

section Overloads

variable {parameters : List Parameter}

theorem Slot.ofParameters_plain (position : Nat) :
    Slot.ofParameters position (parameters.map Parameter.plain) =
      Slot.ofParameters position parameters := by
  induction parameters generalizing position with
  | nil => rfl
  | cons parameter rest ih =>
      rw [List.map_cons, Slot.ofParameters, ih, Slot.ofParameters]
      rfl

theorem Slot.read?_plain (slot : Slot) :
    slot.read? (parameters.map Parameter.plain) = (slot.read? parameters).map Parameter.plain := by
  cases slot with
  | required position => exact List.getElem?_map
  | optional position => exact List.getElem?_map
  | promoted position =>
      simp only [read?, List.getElem?_map, Option.map_map]
      rfl

theorem unrelatedPair?_plain (overload : List Slot) :
    unrelatedPair? (parameters.map Parameter.plain) overload =
      unrelatedPair? parameters overload := by
  induction overload with
  | nil => rfl
  | cons first rest ih =>
      cases rest with
      | nil => rfl
      | cons second rest =>
          simp only [unrelatedPair?, List.getElem?_map, ih]
          cases parameters[first.position]? <;> cases parameters[second.position]? <;> rfl

theorem widenAlong_plain (overload : List Slot) :
    widenAlong (parameters.map Parameter.plain) overload =
      (widenAlong parameters overload).map Parameter.plain := by
  rw [widenAlong, unrelatedPair?_plain, widenAlong]
  cases unrelatedPair? parameters overload with
  | none => rfl
  | some position =>
      -- widening changes one parameter and does not look at its note
      refine List.ext_getElem? fun index => ?_
      rw [List.getElem?_modify, List.getElem?_map, List.getElem?_map, List.getElem?_modify]
      cases parameters[index]? with
      | none => rfl
      | some parameter =>
          have hwidened :
              (if position = index then parameter.plain.widened else parameter.plain) =
                (if position = index then parameter.widened else parameter).plain := by
            split <;> rfl
          exact congrArg some hwidened

/-- Planning commutes with dropping the notes. -/
theorem Plan.ofParameters_plain :
    Plan.ofParameters (parameters.map Parameter.plain) =
      { Plan.ofParameters parameters with
        parameters := (Plan.ofParameters parameters).parameters.map Parameter.plain } := by
  have hrun : ∀ overloads : List (List Slot),
      overloads.foldl widenAlong (parameters.map Parameter.plain) =
        (overloads.foldl widenAlong parameters).map Parameter.plain :=
    fun _ => List.foldl_hom (List.map Parameter.plain) fun _ => widenAlong_plain
  simp only [Plan.ofParameters, Slot.ofParameters_plain, hrun]

theorem Plan.parameterLists_plain :
    (Plan.ofParameters (parameters.map Parameter.plain)).parameterLists =
      (Plan.ofParameters parameters).parameterLists.map (List.map Parameter.plain) := by
  rw [Plan.ofParameters_plain, Plan.parameterLists, Plan.parameterLists, List.map_map]
  refine List.map_congr_left fun overload _ => ?_
  rw [Function.comp_apply, List.map_filterMap]
  exact List.filterMap_congr fun slot _ => Slot.read?_plain slot

end Overloads

/-! ## Blocks -/

namespace Method

variable {config : Config} {method : Method}

theorem isDropped_plain : method.plain.isDropped config = method.isDropped config := rfl

theorem block_plain (description : String) (parameters : List Parameter) (outcome : Outcome) :
    method.plain.block description (parameters.map Parameter.plain) outcome =
      method.block description parameters outcome := by
  have htags : tags (parameters.map Parameter.plain) outcome = tags parameters outcome := by
    rw [tags, List.map_map, tags]
    rfl
  have hsignature : method.plain.signature (parameters.map Parameter.plain) outcome.type =
      method.signature parameters outcome.type := by
    rw [signature, List.map_map, signature]
    rfl
  rw [block, htags, hsignature, block]

theorem compatibilityBlocks_plain :
    method.plain.compatibilityBlocks config = method.compatibilityBlocks config := rfl

/-- The blocks of a method do not show the notes. -/
theorem blocks_plain : method.plain.blocks config = method.blocks config := by
  have hplanned : ((Plan.ofParameters method.plain.parameters).parameterLists.mapM fun parameters =>
      method.plain.block method.plain.description parameters method.plain.outcome) =
      (Plan.ofParameters method.parameters).parameterLists.mapM fun parameters =>
        method.block method.description parameters method.outcome := by
    rw [plain, Plan.parameterLists_plain, List.mapM_map]
    exact congrArg (List.mapM · _) (funext fun parameters => block_plain _ parameters _)
  rw [blocks, hplanned, blocks, isDropped_plain, compatibilityBlocks_plain]

theorem afterBlocks_plain :
    method.plain.afterBlocks config = (method.afterBlocks config).plain := by
  rw [afterBlocks, isDropped_plain, afterBlocks]
  split
  · rfl
  · rw [plain, Plan.ofParameters_plain]
    rfl

end Method

/-! ## Definitions -/

namespace Definitions

variable {config : Config} {library : Option String} {forest : Forest}

/-- The definitions of a library do not show the notes. -/
theorem text_plain :
    text config library (forest.map Declaration.plain) = text config library forest := by
  have hkept : KeepsBlocks config library (fun _ => Method.plain) forest :=
    fun _ _ _ _ _ => Method.blocks_plain
  exact text_mapMethods hkept

/-- Rendering commutes with dropping the notes. -/
theorem after_plain :
    after config library (forest.map Declaration.plain) =
      (after config library forest).map Declaration.plain := by
  rw [after, Forest.map_map, after, Forest.map_map]
  refine congrArg forest.map (funext fun d => ?_)
  rw [Function.comp_apply, Function.comp_apply, Declaration.plain, owned_mapMethods]
  split
  case isTrue =>
    have hafter : Method.afterBlocks config ∘ Method.plain =
        Method.plain ∘ Method.afterBlocks config := funext fun method => Method.afterBlocks_plain
    simp only [Declaration.plain, Declaration.mapMethods, Body.mapMethods_mapMethods, hafter]
  case isFalse => rfl

end Definitions

namespace Exports

variable {config : Config} {library : Option String} {forest : Forest}

theorem moduleOf?_mapMethods (f : Method → Method) (d : Declaration) :
    moduleOf? (d.mapMethods f) = moduleOf? d := by
  rw [moduleOf?, Declaration.kind, Declaration.mapMethods, Body.kind_mapMethods, moduleOf?,
    Declaration.kind]

/-- Exports are made of modules, libraries and full names. -/
theorem text_map {f : Declaration → Declaration} (hmodule : ∀ d, moduleOf? (f d) = moduleOf? d)
    (hlibrary : ∀ d, (f d).library = d.library) (hname : ∀ d, (f d).fullName = d.fullName) :
    text config library (forest.map f) = text config library forest := by
  have hshows : ∀ d, shows library (f d) = shows library d := by
    intro d
    rw [shows, hlibrary, shows]
  rw [text, lines, Forest.walk_map, List.flatMap_map, text, lines]
  refine congrArg _ (List.flatMap_congr fun d _ => ?_)
  rw [hmodule, hshows, hname]

theorem text_plain :
    text config library (forest.map Declaration.plain) = text config library forest :=
  text_map (moduleOf?_mapMethods Method.plain) Declaration.library_plain Declaration.fullName_plain

/-- Rendering definitions leaves the exports as they are. -/
theorem text_after (shown : Option String) :
    text config library (Definitions.after config shown forest) = text config library forest := by
  refine text_map ?_ ?_ ?_ <;> intro d
  · split
    · exact moduleOf?_mapMethods _ d
    · rfl
  · split <;> rfl
  · split <;> rfl

end Exports

end Typings
