import Mathlib.Data.List.Nodup
import Typings.Proofs.Text.Joined
import Typings.Proofs.Text.Trimmed
import Typings.TypeText

/-!
# Members of type texts

A type text is cut at its bars, and each piece is a name with array marks behind it.

* `TypeText.IsName`, `TypeText.isName_peel`: what is left of a member without its marks;
* `TypeText.peel_append_marks`: a name with marks behind it is taken apart again;
* `TypeText.members_intercalate`: the members of a joined text are the joined ones;
* `TypeText.mem_replacedMembers`, `TypeText.nodup_replacedMembers`: the declared members;
* `TypeText.replace_eq_anyType_or`: a declared type is `any` or joined from them.
-/

namespace Typings

/-! ## Texts that are new -/

section New

variable {texts more : List String} {text : String}

theorem mem_foldl_addNew :
    text ∈ more.foldl TypeText.addNew texts ↔ text ∈ texts ∨ text ∈ more := by
  induction more generalizing texts with
  | nil => simp
  | cons first rest ih =>
      rw [List.foldl_cons, ih, TypeText.addNew]
      split
      case isTrue hmem =>
        rw [List.mem_cons]
        constructor
        · exact Or.imp_right Or.inr
        · rintro (h | rfl | h)
          · exact .inl h
          · exact .inl hmem
          · exact .inr h
      case isFalse => simp [or_assoc]

theorem nodup_foldl_addNew (h : texts.Nodup) : (more.foldl TypeText.addNew texts).Nodup := by
  induction more generalizing texts with
  | nil => exact h
  | cons first rest ih =>
      refine ih ?_
      rw [TypeText.addNew]
      split
      · exact h
      · rw [← List.concat_eq_append]
        exact h.concat ‹_›

/-- Texts of which none repeats another are all new. -/
theorem foldl_addNew_of_nodup (h : (texts ++ more).Nodup) :
    more.foldl TypeText.addNew texts = texts ++ more := by
  induction more generalizing texts with
  | nil => simp
  | cons first rest ih =>
      have hfirst : first ∉ texts := fun hmem =>
        (List.nodup_append.1 h).2.2 first hmem first List.mem_cons_self rfl
      have hmore : texts ++ first :: rest = texts ++ [first] ++ rest := by simp
      rw [List.foldl_cons, TypeText.addNew, if_neg hfirst, ih (hmore ▸ h), hmore]

end New

namespace TypeText

variable {text base member : List Char} {type part : String} {replacements : Config.Replacements}

/-! ## Marks -/

theorem beforeMark?_eq_some_iff {front : List Char} :
    beforeMark? text = some front ↔ text = front ++ ['[', ']'] := by
  constructor
  · intro h
    rw [beforeMark?] at h
    split at h
    next rest heq =>
      cases h
      rw [← List.reverse_inj, heq]
      simp
    · cases h
  · rintro rfl
    simp [beforeMark?]

theorem beforeMark?_eq_none_iff : beforeMark? text = none ↔ ¬ ['[', ']'] <:+ text := by
  rw [Option.eq_none_iff_forall_ne_some]
  constructor
  · rintro h ⟨front, rfl⟩
    exact h front (beforeMark?_eq_some_iff.2 rfl)
  · intro h front hfront
    exact h ⟨front, (beforeMark?_eq_some_iff.1 hfront).symm⟩

/-- Some array marks. -/
def marks (n : Nat) : List Char :=
  (List.replicate n ['[', ']']).flatten

theorem marks_succ (n : Nat) : marks (n + 1) = marks n ++ ['[', ']'] := by
  rw [marks, List.replicate_succ', List.flatten_append, marks]
  rfl

theorem not_mem_marks {c : Char} (hopen : c ≠ '[') (hclose : c ≠ ']') (n : Nat) :
    c ∉ marks n := by
  rw [marks, List.mem_flatten]
  rintro ⟨mark, hmark, hc⟩
  rw [List.eq_of_mem_replicate hmark] at hc
  simp [hopen, hclose] at hc

theorem toList_join_marks (n : Nat) :
    (String.join (List.replicate n "[]")).toList = marks n := by
  induction n with
  | zero => rfl
  | succ n ih =>
      rw [List.replicate_succ', String.join_append, String.toList_append, ih, marks_succ]
      rfl

/-! ## Names -/

/-- What is left of a member when its array marks are taken away. -/
structure IsName (name : List Char) : Prop where
  trimmed : Text.IsTrimmed name
  unmarked : beforeMark? name = none
  single : '|' ∉ name

theorem peel_of_mark (h : beforeMark? (Text.trim member) = some base) :
    peel member = ((peel base).1, (peel base).2 + 1) := by
  rw [peel]
  split
  next inner heq =>
    rw [h] at heq
    cases heq
    rfl
  next heq =>
    rw [h] at heq
    cases heq

theorem peel_of_unmarked (h : beforeMark? (Text.trim member) = none) :
    peel member = (Text.trim member, 0) := by
  rw [peel]
  split
  next inner heq =>
    rw [h] at heq
    cases heq
  · rfl

theorem isName_peel (h : '|' ∉ member) : IsName (peel member).1 := by
  have htrimmed : '|' ∉ Text.trim member := fun hmem => h (Text.trim_subset member hmem)
  -- each step takes the blanks and one mark away and leaves no bar that was not there
  fun_induction peel member with
  | case1 member inner heq peeled marked hpeeled ih =>
      rw [beforeMark?_eq_some_iff] at heq
      have hinner : '|' ∉ inner := by
        intro hmem
        exact htrimmed (heq ▸ List.mem_append_left _ hmem)
      rw [hpeeled] at ih
      exact ih hinner fun hmem => hinner (Text.trim_subset inner hmem)
  | case2 member heq => exact ⟨Text.isTrimmed_trim member, heq, htrimmed⟩

/-- A member without marks is a name, and not an empty one. -/
theorem peel_ne_nil (hfilled : Text.isBlankText member = false) (h : (peel member).2 = 0) :
    (peel member).1 ≠ [] := by
  cases hmark : beforeMark? (Text.trim member) with
  | some inner =>
      rw [peel_of_mark hmark] at h
      cases h
  | none =>
      rw [peel_of_unmarked hmark]
      exact Text.trim_ne_nil hfilled

theorem isTrimmed_append_marks (h : Text.IsTrimmed base) (n : Nat) :
    Text.IsTrimmed (base ++ marks n) := by
  cases n with
  | zero => simpa [marks] using h
  | succ n =>
      constructor
      · intro c hc
        rw [List.head?_append, Option.mem_def, Option.or_eq_some_iff] at hc
        rcases hc with hc | ⟨-, hc⟩
        · exact h.1 c hc
        · rw [marks, List.replicate_succ] at hc
          cases hc
          decide
      · intro c hc
        rw [marks_succ, ← List.append_assoc, List.getLast?_append] at hc
        cases hc
        decide

/-- A name with marks behind it is taken apart again. -/
theorem peel_append_marks (h : IsName base) (n : Nat) : peel (base ++ marks n) = (base, n) := by
  induction n with
  | zero =>
      rw [marks, List.replicate_zero, List.flatten_nil, List.append_nil, peel_of_unmarked,
        h.trimmed.trim_eq]
      rw [h.trimmed.trim_eq]
      exact h.unmarked
  | succ n ih =>
      have hmark : beforeMark? (Text.trim (base ++ marks (n + 1))) = some (base ++ marks n) := by
        rw [(isTrimmed_append_marks h.trimmed _).trim_eq, beforeMark?_eq_some_iff, marks_succ,
          List.append_assoc]
      rw [peel_of_mark hmark, ih]

theorem toList_withMarks {name : String} (h : '|' ∉ name.toList) (n : Nat) :
    (withMarks name n).toList = name.toList ++ marks n := by
  rw [withMarks, if_neg fun hunion => h hunion.2, String.toList_append, toList_join_marks]

/-! ## Members -/

theorem single_of_mem_members (h : member ∈ members text) : '|' ∉ member :=
  Text.not_mem_of_mem_splitOn (List.mem_filter.1 h).1

theorem not_blank_of_mem_members (h : member ∈ members text) :
    Text.isBlankText member = false := by
  simpa using (List.mem_filter.1 h).2

/-- The members of a joined text are those that were joined. -/
theorem members_intercalate {parts : List String} (hne : parts ≠ [])
    (hsingle : ∀ part ∈ parts, '|' ∉ part.toList)
    (hfilled : ∀ part ∈ parts, Text.isBlankText part.toList = false) :
    members ("|".intercalate parts).toList = parts.map String.toList := by
  rw [members, Text.splitOn_intercalate rfl hne hsingle, List.filter_eq_self, List.forall_mem_map]
  intro part hpart
  rw [hfilled part hpart]
  rfl

/-! ## Declared members -/

theorem mem_replacedMembers :
    part ∈ replacedMembers replacements type ↔
      ∃ member ∈ members type.toList, replaceMember replacements member = part := by
  simp [replacedMembers, mem_foldl_addNew]

theorem nodup_replacedMembers (replacements : Config.Replacements) (type : String) :
    (replacedMembers replacements type).Nodup :=
  nodup_foldl_addNew List.nodup_nil

/-- A declared type is `any`, or else it joins the declared members, of which none is `any`. -/
theorem replace_eq_anyType_or (replacements : Config.Replacements) (type : String) :
    replace replacements type = anyType ∨
      replacedMembers replacements type ≠ [] ∧ anyType ∉ replacedMembers replacements type ∧
        replace replacements type = "|".intercalate (replacedMembers replacements type) := by
  by_cases hparts : replacedMembers replacements type = [] ∨
      anyType ∈ replacedMembers replacements type
  · exact .inl (if_pos hparts)
  · obtain ⟨hne, hany⟩ := not_or.1 hparts
    exact .inr ⟨hne, hany, if_neg hparts⟩

end TypeText
end Typings
