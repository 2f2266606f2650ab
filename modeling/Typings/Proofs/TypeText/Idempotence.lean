import Typings.Proofs.TypeText.Members

/-!
# Declared types declared again

A table whose values are plain names that it does not replace themselves changes a type once: what
it makes of a type is a union of members that it leaves as they are.

* `Config.Replacements.Plain`: such tables;
* `TypeText.Settled`: a text that is a member and stays one;
* `TypeText.replace_intercalate`: a union of such texts is declared as it is;
* `TypeText.replace_replace`: declared types are declared as they are.
-/

namespace Typings

/-! ## Plain tables -/

namespace Config.Replacements

/-- The replacements of names, those for every type first. -/
def entries (replacements : Config.Replacements) : Table String :=
  replacements.everywhere ++ replacements.specific.namespaceAsType

/-- Values are names of which no table has an entry, and `any` is not replaced. -/
structure Plain (replacements : Config.Replacements) : Prop where
  filled : ∀ entry ∈ replacements.entries, entry.2 ≠ ""
  trimmed : ∀ entry ∈ replacements.entries, Text.trim entry.2.toList = entry.2.toList
  single : ∀ entry ∈ replacements.entries, '|' ∉ entry.2.toList
  unmarked : ∀ entry ∈ replacements.entries, ¬ ['[', ']'] <:+ entry.2.toList
  settled : ∀ entry ∈ replacements.entries, entry.2 ∉ Table.keys replacements.entries
  keepsAny : anyType ∉ Table.keys replacements.entries

end Config.Replacements

namespace TypeText

variable {replacements : Config.Replacements} {name part type : String} {member : List Char}

theorem replaceName_eq (replacements : Config.Replacements) (name : String) :
    replaceName replacements name = (List.lookup name replacements.entries).getD name := by
  rw [replaceName, Config.Replacements.entries, List.lookup_append]
  cases List.lookup name replacements.everywhere <;> rfl

theorem replaceName_of_not_mem (h : name ∉ Table.keys replacements.entries) :
    replaceName replacements name = name := by
  rw [replaceName_eq, List.lookup_eq_none_iff.2, Option.getD_none]
  intro entry hentry
  rw [bne_iff_ne]
  rintro rfl
  exact h (List.mem_map_of_mem hentry)

/-- A name is replaced by a value of the tables, or has no entry in them. -/
theorem replaceName_eq_or (replacements : Config.Replacements) (name : String) :
    (∃ entry ∈ replacements.entries, replaceName replacements name = entry.2) ∨
      name ∉ Table.keys replacements.entries ∧ replaceName replacements name = name := by
  by_cases hname : name ∈ Table.keys replacements.entries
  · left
    rw [replaceName_eq]
    cases hlookup : List.lookup name replacements.entries with
    | some value =>
        obtain ⟨front, back, hsplit, -⟩ := List.lookup_eq_some_iff.1 hlookup
        refine ⟨(name, value), ?_, rfl⟩
        rw [hsplit]
        exact List.mem_append_right _ List.mem_cons_self
    | none =>
        obtain ⟨entry, hentry, rfl⟩ := List.mem_map.1 hname
        have hother := List.lookup_eq_none_iff.1 hlookup entry hentry
        exact absurd rfl (bne_iff_ne.1 hother)
  · exact .inr ⟨hname, replaceName_of_not_mem hname⟩

/-! ## Members that stay -/

/-- A text that is one member and is declared as it is. -/
structure Settled (replacements : Config.Replacements) (part : String) : Prop where
  single : '|' ∉ part.toList
  filled : Text.isBlankText part.toList = false
  stays : replaceMember replacements part.toList = part

/-- A union of members that stay is declared as it is, unless one of them is `any`. -/
theorem replace_intercalate {parts : List String} (hne : parts ≠ []) (hnodup : parts.Nodup)
    (h : ∀ part ∈ parts, Settled replacements part) :
    replace replacements ("|".intercalate parts) =
      if anyType ∈ parts then anyType else "|".intercalate parts := by
  have hmembers : members ("|".intercalate parts).toList = parts.map String.toList :=
    members_intercalate hne (fun part hpart => (h part hpart).single)
      fun part hpart => (h part hpart).filled
  have hstay : (parts.map String.toList).map (replaceMember replacements) = parts := by
    rw [List.map_map]
    exact (List.map_congr_left fun part hpart => (h part hpart).stays).trans (List.map_id parts)
  have hparts : replacedMembers replacements ("|".intercalate parts) = parts := by
    rw [replacedMembers, hmembers, hstay, foldl_addNew_of_nodup (by simpa using hnodup),
      List.nil_append]
  simp only [replace, hparts, hne, false_or]

/-- A name that has no entry stays, with any marks behind it. -/
theorem replaceMember_withMarks (hname : IsName name.toList)
    (hkey : name ∉ Table.keys replacements.entries) (n : Nat) :
    replaceMember replacements (withMarks name n).toList = withMarks name n := by
  rw [replaceMember, memberName, toList_withMarks hname.single, peel_append_marks hname,
    String.ofList_toList, replaceName_of_not_mem hkey]

theorem settled_anyType (h : replacements.Plain) : Settled replacements anyType where
  single := by decide
  filled := by decide
  stays := by
    have hname : IsName anyType.toList := ⟨by decide, by decide, by decide⟩
    have hmarks : withMarks anyType 0 = anyType := by decide
    rw [← hmarks]
    exact replaceMember_withMarks hname h.keepsAny 0

/-- What plain tables make of a name has no entry and is a name again. -/
theorem isName_memberName (h : replacements.Plain) (hmember : '|' ∉ member) :
    IsName (memberName replacements member).toList ∧
      memberName replacements member ∉ Table.keys replacements.entries := by
  rw [memberName]
  rcases replaceName_eq_or replacements (String.ofList (peel member).1) with
    ⟨entry, hentry, heq⟩ | ⟨hkey, heq⟩
  · rw [heq]
    refine ⟨⟨?_, ?_, h.single entry hentry⟩, h.settled entry hentry⟩
    · rw [← h.trimmed entry hentry]
      exact Text.isTrimmed_trim _
    · exact beforeMark?_eq_none_iff.2 (h.unmarked entry hentry)
  · rw [heq, String.toList_ofList]
    exact ⟨isName_peel hmember, hkey⟩

/-- What plain tables make of a member without marks is not empty. -/
theorem memberName_ne_nil (h : replacements.Plain) (hmember : member ∈ members type.toList)
    (hmarks : marks (peel member).2 = []) : (memberName replacements member).toList ≠ [] := by
  rw [memberName]
  rcases replaceName_eq_or replacements (String.ofList (peel member).1) with
    ⟨entry, hentry, heq⟩ | ⟨-, heq⟩
  · rw [heq]
    exact fun hnil => h.filled entry hentry (String.toList_eq_nil_iff.1 hnil)
  · rw [heq, String.toList_ofList]
    apply peel_ne_nil (not_blank_of_mem_members hmember)
    cases hcount : (peel member).2 with
    | zero => rfl
    | succ n =>
        rw [hcount, marks_succ] at hmarks
        simp at hmarks

theorem settled_replaceMember (h : replacements.Plain) (hmember : member ∈ members type.toList) :
    Settled replacements (replaceMember replacements member) := by
  obtain ⟨hname, hkey⟩ := isName_memberName h (single_of_mem_members hmember)
  rw [replaceMember]
  refine ⟨?_, ?_, replaceMember_withMarks hname hkey _⟩
  · rw [toList_withMarks hname.single, List.mem_append, not_or]
    exact ⟨hname.single, not_mem_marks (by decide) (by decide) _⟩
  · apply Text.isBlankText_eq_false
    · rw [toList_withMarks hname.single]
      exact isTrimmed_append_marks hname.trimmed _
    · rw [toList_withMarks hname.single]
      intro hnil
      obtain ⟨hbase, hmarks⟩ := List.append_eq_nil_iff.1 hnil
      exact memberName_ne_nil h hmember hmarks hbase

/-- Plain tables declare what they have declared as it is. -/
theorem replace_replace (h : replacements.Plain) (type : String) :
    replace replacements (replace replacements type) = replace replacements type := by
  have hany : replace replacements anyType = anyType := by
    have hone : "|".intercalate [anyType] = anyType := String.intercalate_singleton
    have := replace_intercalate (List.cons_ne_nil _ _) (List.nodup_singleton anyType)
      (by simpa using settled_anyType h)
    rwa [hone, if_pos List.mem_cons_self] at this
  rcases replace_eq_anyType_or replacements type with hreplaced | ⟨hne, hnone, hreplaced⟩
  · rw [hreplaced, hany]
  · rw [hreplaced, replace_intercalate hne (nodup_replacedMembers replacements type),
      if_neg hnone]
    -- every declared member is one that stays
    intro part hpart
    obtain ⟨member, hmember, rfl⟩ := mem_replacedMembers.1 hpart
    exact settled_replaceMember h hmember

/-- A table for numbers and values, and a namespace that is used as a text. -/
def sizes : Config.Replacements where
  everywhere := [("int", "number"), ("object", "any")]
  specific := { namespaceAsType := [("sap.ui.core.CSSSize", "string")] }

theorem replace_replace_sizes :
    sizes.Plain ∧
      replace sizes "[] []| int [ ]|sap.ui.core.CSSSize [] []||\tint[]|number[] |a b|" =
        "[][]|int [ ]|string[][]|number[]|a b" ∧
      replace sizes (replace sizes
          "[] []| int [ ]|sap.ui.core.CSSSize [] []||\tint[]|number[] |a b|") =
        replace sizes "[] []| int [ ]|sap.ui.core.CSSSize [] []||\tint[]|number[] |a b|" := by
  have hplain : sizes.Plain := by
    constructor <;> decide
  exact ⟨hplain, by decide +kernel, replace_replace hplain _⟩

end TypeText
end Typings
