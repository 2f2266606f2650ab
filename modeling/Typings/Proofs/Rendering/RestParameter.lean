import Typings.Member.Parameter
import Typings.Proofs.TypeText.TopLevel

/-!
# Rest parameters

A rest parameter takes the array of its type. A union stands in parentheses in front of the array
mark, unless its last member has a mark: then the whole type is taken for an array.

* `TypeText.IsArray`: a type that ends in an array mark and is no union;
* `TypeText.RestType`: what the declared type of a rest parameter has to be;
* `TypeText.restType_of_mark`, `restType_of_bar`, `restType_of_not_bar`: arrays of types;
* `Parameter.signature_restType_iff`: the signatures of rest parameters.
-/

namespace Typings
namespace TypeText

variable {type : String} {text : List Char}

/-! ## Arrays -/

/-- A type that ends in an array mark, which belongs to the whole type. -/
structure IsArray (text : List Char) : Prop where
  marked : ['[', ']'] <:+ text
  single : ¬ IsUnion text

/-- A text that does not close a bracket opened in front of it. -/
def StaysInside (text : List Char) : Prop :=
  ∀ front back, text = front ++ back → 0 < (Nesting.after { level := 1 } front).level

theorem not_isUnion_of_not_mem (h : '|' ∉ text) : ¬ IsUnion text := by
  rw [isUnion_iff]
  rintro ⟨front, back, rfl, -⟩
  simp at h

/-- Between parentheses no bar is outside brackets. -/
theorem not_isUnion_parenthesized (h : StaysInside text) :
    ¬ IsUnion ('(' :: (text ++ [')', '[', ']'])) := by
  rw [isUnion_iff]
  rintro ⟨front, back, heq, hlevel⟩
  rcases front with _ | ⟨c, front⟩
  · cases heq
  · rw [List.cons_append, List.cons.injEq] at heq
    obtain ⟨rfl, heq⟩ := heq
    rcases List.append_eq_append_iff.1 heq with ⟨more, -, hmore⟩ | ⟨more, hmore, -⟩
    · -- behind the text there are only brackets
      have hbar : '|' ∈ [')', '[', ']'] := hmore ▸ List.mem_append_right _ List.mem_cons_self
      exact absurd hbar (by decide)
    · exact absurd hlevel (h front more hmore).ne'

theorem arrayOf_of_mark (h : ['[', ']'] <:+ type.toList) : arrayOf type = type := by
  obtain ⟨front, hfront⟩ := h
  rw [arrayOf, beforeMark?_eq_some_iff.2 hfront.symm]

theorem arrayOf_of_bar (h : ¬ ['[', ']'] <:+ type.toList) (hbar : '|' ∈ type.toList) :
    arrayOf type = "(" ++ type ++ ")[]" := by
  rw [arrayOf, beforeMark?_eq_none_iff.2 h]
  exact if_pos hbar

theorem arrayOf_of_not_bar (h : ¬ ['[', ']'] <:+ type.toList) (hbar : '|' ∉ type.toList) :
    arrayOf type = type ++ "[]" := by
  rw [arrayOf, beforeMark?_eq_none_iff.2 h]
  exact if_neg hbar

/-! ## Types of rest parameters -/

/-- The declared type of a rest parameter. -/
structure RestType (type declared : String) : Prop where
  /-- A union stands in parentheses, -/
  union : IsUnion type.toList → declared = "(" ++ type ++ ")[]"
  /-- nothing but an array is left as it is, -/
  kept : declared = type → IsArray type.toList
  /-- and the mark at the end makes an array of everything in front of it. -/
  array : StaysInside type.toList → IsArray declared.toList

theorem ne_parenthesized (type : String) : type ≠ "(" ++ type ++ ")[]" := by
  intro h
  have hlength : type.length = 1 + type.length + 3 := by
    conv_lhs => rw [h, String.length_append, String.length_append]
    rfl
  omega

theorem append_mark_ne (type : String) : type ++ "[]" ≠ type := by
  intro h
  have hlength : type.length + 2 = type.length := by
    conv_rhs => rw [← h, String.length_append]
    rfl
  omega

theorem restType_of_mark (hmark : ['[', ']'] <:+ type.toList) (hsingle : ¬ IsUnion type.toList) :
    RestType type (arrayOf type) := by
  rw [arrayOf_of_mark hmark]
  exact ⟨fun hunion => absurd hunion hsingle, fun _ => ⟨hmark, hsingle⟩, fun _ => ⟨hmark, hsingle⟩⟩

theorem restType_of_bar (hmark : ¬ ['[', ']'] <:+ type.toList) (hbar : '|' ∈ type.toList) :
    RestType type (arrayOf type) := by
  rw [arrayOf_of_bar hmark hbar]
  refine ⟨fun _ => rfl, fun heq => absurd heq.symm (ne_parenthesized type), ?_⟩
  intro hinside
  have htext : ("(" ++ type ++ ")[]").toList = '(' :: (type.toList ++ [')', '[', ']']) := by
    simp
  rw [htext]
  exact ⟨⟨'(' :: (type.toList ++ [')']), by simp⟩, not_isUnion_parenthesized hinside⟩

theorem restType_of_not_bar (hmark : ¬ ['[', ']'] <:+ type.toList) (hbar : '|' ∉ type.toList) :
    RestType type (arrayOf type) := by
  rw [arrayOf_of_not_bar hmark hbar]
  refine ⟨fun hunion => absurd hunion (not_isUnion_of_not_mem hbar),
    fun heq => absurd heq (append_mark_ne type), fun _ => ?_⟩
  rw [String.toList_append]
  refine ⟨List.suffix_append _ _, not_isUnion_of_not_mem ?_⟩
  simpa using hbar

end TypeText

namespace Parameter

open TypeText

/-- A rest parameter is declared with the array of its type, unless its type is a union that ends in
an array mark. -/
theorem signature_restType_iff (parameter : Parameter) (hspread : parameter.spread = true) :
    parameter.signature = "..." ++ parameter.name ++ ": " ++ arrayOf parameter.type ∧
      (RestType parameter.type (arrayOf parameter.type) ↔
        ¬ (IsUnion parameter.type.toList ∧ ['[', ']'] <:+ parameter.type.toList)) := by
  refine ⟨if_pos hspread, ?_⟩
  constructor
  · rintro hrest ⟨hunion, hmark⟩
    have hparentheses := hrest.union hunion
    rw [arrayOf_of_mark hmark] at hparentheses
    exact ne_parenthesized parameter.type hparentheses
  · intro h
    by_cases hmark : ['[', ']'] <:+ parameter.type.toList
    · exact restType_of_mark hmark fun hunion => h ⟨hunion, hmark⟩
    · by_cases hbar : '|' ∈ parameter.type.toList
      · exact restType_of_bar hmark hbar
      · exact restType_of_not_bar hmark hbar

theorem signature_restType_iff_union :
    let values : Parameter := { name := "values", type := "string[]|number", spread := true }
    values.spread = true ∧ values.signature = "...values: (string[]|number)[]" ∧
      RestType values.type (arrayOf values.type) := by
  intro values
  obtain ⟨hsignature, hrest⟩ := signature_restType_iff values rfl
  have harray : arrayOf values.type = "(string[]|number)[]" := by decide
  rw [harray] at hsignature
  refine ⟨rfl, hsignature, hrest.2 ?_⟩
  rintro ⟨-, hmark⟩
  revert hmark
  decide

/-- Of a union whose last member has an array mark, only that member is an array. -/
theorem not_restType_of_last_mark :
    let values : Parameter := { name := "values", type := "string|number[]", spread := true }
    values.signature = "...values: string|number[]" ∧ ¬ RestType values.type "string|number[]" := by
  refine ⟨by decide, ?_⟩
  rintro ⟨hunion, -, -⟩
  exact absurd (hunion (by decide)) (by decide)

end Parameter
end Typings
