import Typings.Proofs.TypeText.TopLevel

/-!
# Members of declared unions

Declaring a type keeps each declared member once and makes the whole type `any` when one of them is.
This is done for the members as they are written, between bars. A member that is replaced by a union
brings in members that are not compared with the others.

* `TypeText.Proper`: a union without repeated members, of which none is `any` beside others;
* `TypeText.Apart`: texts that make a proper union together;
* `TypeText.proper_replace_of_single`: no name is replaced by a union;
* `TypeText.proper_replace_iff`: when a declared type is a proper union.
-/

namespace Typings
namespace TypeText

variable {replacements : Config.Replacements} {type : String} {text : List Char}

/-- A union whose members are different, and that is no more than `any` when a member is. -/
structure Proper (type : String) : Prop where
  distinct : (unionMembers type.toList).Nodup
  absorbed : anyType.toList ∈ unionMembers type.toList → type = anyType

/-- Texts that repeat no member as unions, each in itself and one in another, and hold no `any`. -/
structure Apart (groups : List (List Char)) : Prop where
  distinct : ∀ group ∈ groups, (unionMembers group).Nodup
  disjoint : groups.Pairwise fun one other => (unionMembers one).Disjoint (unionMembers other)
  plain : ∀ group ∈ groups, anyType.toList ∉ unionMembers group

theorem proper_anyType : Proper anyType :=
  ⟨by decide, fun _ => rfl⟩

/-! ## Names that are no unions -/

theorem nodup_of_nodup_flatMap {α β : Type} {l : List α} {f : α → List β}
    (h : (l.flatMap f).Nodup) (hne : ∀ x ∈ l, f x ≠ []) : l.Nodup := by
  refine (List.nodup_flatMap.1 h).2.imp_of_mem ?_
  rintro x y hx - hdisjoint rfl
  obtain ⟨y, hy⟩ := List.exists_mem_of_ne_nil _ (hne x hx)
  exact hdisjoint hy hy

/-- Pieces without blanks at their ends are compared as members when all are different. -/
theorem unionMembers_eq_alternatives (h : ∀ piece ∈ text.splitOn '|', Text.IsTrimmed piece) :
    unionMembers text = alternatives text := by
  refine (List.map_congr_left fun alternative halternative => ?_).trans (List.map_id _)
  have htrimmed : Text.IsTrimmed (['|'].intercalate (alternative.splitOn '|')) := by
    apply Text.isTrimmed_intercalate (by decide)
    intro piece hpiece
    apply h
    rw [← flatMap_splitOn_alternatives]
    exact List.mem_flatMap.2 ⟨alternative, halternative, hpiece⟩
  rw [List.intercalate_splitOn] at htrimmed
  exact htrimmed.trim_eq

/-- When every name is declared as one member, the declared type is a proper union, whatever
brackets it has. -/
theorem proper_replace_of_single
    (h : ∀ member ∈ members type.toList,
      '|' ∉ (memberName replacements member).toList ∧
        Text.IsTrimmed (memberName replacements member).toList) :
    Proper (replace replacements type) := by
  rcases replace_eq_anyType_or replacements type with heq | ⟨hne, hany, heq⟩
  · rw [heq]
    exact proper_anyType
  · have hpart : ∀ part ∈ replacedMembers replacements type,
        '|' ∉ part.toList ∧ Text.IsTrimmed part.toList := by
      intro part hpart
      obtain ⟨member, hmember, rfl⟩ := mem_replacedMembers.1 hpart
      obtain ⟨hsingle, htrimmed⟩ := h member hmember
      rw [replaceMember, toList_withMarks hsingle]
      refine ⟨?_, isTrimmed_append_marks htrimmed _⟩
      rw [List.mem_append, not_or]
      exact ⟨hsingle, not_mem_marks (by decide) (by decide) _⟩
    -- the pieces between all bars are the declared members
    have hpieces : (replace replacements type).toList.splitOn '|' =
        (replacedMembers replacements type).map String.toList := by
      rw [heq, Text.splitOn_intercalate rfl hne fun part hmem => (hpart part hmem).1]
    have hnodup : ((replace replacements type).toList.splitOn '|').Nodup := by
      rw [hpieces]
      exact (nodup_replacedMembers replacements type).map fun _ _ => String.toList_injective
    have hmembers : unionMembers (replace replacements type).toList =
        alternatives (replace replacements type).toList := by
      apply unionMembers_eq_alternatives
      rw [hpieces, List.forall_mem_map]
      exact fun part hmem => (hpart part hmem).2
    rw [← flatMap_splitOn_alternatives] at hnodup
    constructor
    · rw [hmembers]
      exact nodup_of_nodup_flatMap hnodup fun _ _ => List.splitOn_ne_nil _ _
    · intro hmem
      rw [hmembers] at hmem
      have hpiece : anyType.toList ∈ (replace replacements type).toList.splitOn '|' := by
        rw [← flatMap_splitOn_alternatives]
        exact List.mem_flatMap.2 ⟨_, hmem, by decide⟩
      rw [hpieces, List.mem_map_of_injective fun _ _ => String.toList_injective] at hpiece
      exact absurd hpiece hany

/-! ## All names -/

theorem unionMembers_intercalate {parts : List String} (hne : parts ≠ []) :
    unionMembers ("|".intercalate parts).toList = (gather parts).flatMap unionMembers := by
  rw [unionMembers, alternatives_intercalate hne, List.map_flatMap]
  rfl

theorem apart_iff {groups : List (List Char)} :
    Apart groups ↔ (groups.flatMap unionMembers).Nodup ∧
      anyType.toList ∉ groups.flatMap unionMembers := by
  rw [List.nodup_flatMap, List.mem_flatMap]
  constructor
  · rintro ⟨hdistinct, hdisjoint, hplain⟩
    refine ⟨⟨hdistinct, hdisjoint⟩, ?_⟩
    rintro ⟨group, hgroup, hany⟩
    exact hplain group hgroup hany
  · rintro ⟨⟨hdistinct, hdisjoint⟩, hplain⟩
    exact ⟨hdistinct, hdisjoint, fun group hgroup hany => hplain ⟨group, hgroup, hany⟩⟩

/-- A declared type is a proper union exactly when it is `any` or the declared members repeat no
member of each other as unions and hold no `any`, those that open brackets for the next put
together. This is so whenever no name is declared as a union or with blanks around it. -/
theorem proper_replace_iff (replacements : Config.Replacements) (type : String) :
    (Proper (replace replacements type) ↔ replace replacements type = anyType ∨
      Apart (gather (replacedMembers replacements type))) ∧
    ((∀ member ∈ members type.toList,
      '|' ∉ (memberName replacements member).toList ∧
        Text.IsTrimmed (memberName replacements member).toList) →
      Proper (replace replacements type)) := by
  refine ⟨?_, proper_replace_of_single⟩
  by_cases hdeclared : replace replacements type = anyType
  · rw [hdeclared]
    exact iff_of_true proper_anyType (.inl rfl)
  · obtain ⟨hne, -, heq⟩ := (replace_eq_anyType_or replacements type).resolve_left hdeclared
    have hmembers : unionMembers (replace replacements type).toList =
        (gather (replacedMembers replacements type)).flatMap unionMembers := by
      rw [heq, unionMembers_intercalate hne]
    rw [apart_iff, ← hmembers]
    constructor
    · rintro ⟨hdistinct, habsorbed⟩
      exact .inr ⟨hdistinct, fun hany => hdeclared (habsorbed hany)⟩
    · rintro (hany | ⟨hdistinct, hplain⟩)
      · exact absurd hany hdeclared
      · exact ⟨hdistinct, fun hany => absurd hany hplain⟩

/-- Numbers have one name, and a namespace is used as a text. -/
def numbers : Config.Replacements where
  everywhere := [("int", "number"), ("float", "number")]
  specific := { namespaceAsType := [("sap.ui.core.CSSSize", "string")] }

theorem proper_replace_iff_numbers :
    (∀ member ∈ members "int[] |sap.ui.core.CSSSize|Array<int|string[]>|float[]".toList,
      '|' ∉ (memberName numbers member).toList ∧
        Text.IsTrimmed (memberName numbers member).toList) ∧
    replace numbers "int[] |sap.ui.core.CSSSize|Array<int|string[]>|float[]" =
      "number[]|string|Array<int|string[]>" ∧
    Proper (replace numbers "int[] |sap.ui.core.CSSSize|Array<int|string[]>|float[]") := by
  have hsingle : ∀ member ∈ members "int[] |sap.ui.core.CSSSize|Array<int|string[]>|float[]".toList,
      '|' ∉ (memberName numbers member).toList ∧
        Text.IsTrimmed (memberName numbers member).toList := by
    decide +kernel
  exact ⟨hsingle, by decide +kernel, (proper_replace_iff numbers _).2 hsingle⟩

/-- A name that is replaced by a union brings in a member that is there already, or an `any` that
does not take in the others. -/
theorem not_proper_of_union :
    ¬ Proper (replace { everywhere := [("Key", "string|number")] } "Key|string") ∧
      ¬ Proper (replace { everywhere := [("Key", "string|any")] } "Key") := by
  have hrepeated : replace { everywhere := [("Key", "string|number")] } "Key|string" =
      "string|number|string" := by decide +kernel
  have hany : replace { everywhere := [("Key", "string|any")] } "Key" = "string|any" := by
    decide +kernel
  rw [hrepeated, hany]
  constructor
  · rintro ⟨hdistinct, -⟩
    revert hdistinct
    decide
  · rintro ⟨-, habsorbed⟩
    exact absurd (habsorbed (by decide)) (by decide)

end TypeText
end Typings
