import Mathlib.Data.List.TakeWhile
import Typings.Text.Blank

/-!
# Trimmed texts

* `IsTrimmed`: a text without blanks at its ends, which is what trimming gives;
* `isBlankText_eq_false`, `trim_ne_nil`: a trimmed text with something in it has more than blanks,
  and trimming leaves something of a text that has.
-/

namespace Typings
namespace Text

variable {text : List Char}

/-- A text that begins and ends with a character that is not blank, or is empty. -/
def IsTrimmed (text : List Char) : Prop :=
  (∀ c ∈ text.head?, isBlank c = false) ∧ ∀ c ∈ text.getLast?, isBlank c = false

instance (text : List Char) : Decidable (IsTrimmed text) :=
  decidable_of_iff ((text.head?.all (!isBlank ·) && text.getLast?.all (!isBlank ·)) = true) <| by
    simp [IsTrimmed, Option.all_eq_true]

theorem not_blank_of_mem_head?_trimLeft {c : Char} (h : c ∈ (trimLeft text).head?) :
    isBlank c = false := by
  have hfirst := List.head?_dropWhile_not isBlank text
  rw [← trimLeft, h] at hfirst
  exact hfirst

theorem isPrefix_trimRight (text : List Char) : trimRight text <+: text := by
  rw [trimRight, ← List.reverse_suffix, List.reverse_reverse]
  exact List.dropWhile_suffix isBlank

theorem trim_subset (text : List Char) : trim text ⊆ text := by
  intro c hc
  exact (List.dropWhile_suffix isBlank).subset ((isPrefix_trimRight _).subset hc)

theorem isTrimmed_trim (text : List Char) : IsTrimmed (trim text) := by
  constructor
  · intro c hc
    -- what is left begins like the text without the blanks in front
    obtain ⟨rest, hrest⟩ := isPrefix_trimRight (trimLeft text)
    apply not_blank_of_mem_head?_trimLeft
    rw [← hrest, List.head?_append, Option.mem_def]
    exact Option.or_eq_some_iff.2 (.inl hc)
  · intro c hc
    rw [trim, trimRight, List.getLast?_reverse] at hc
    exact not_blank_of_mem_head?_trimLeft hc

theorem IsTrimmed.trim_eq (h : IsTrimmed text) : trim text = text := by
  have hkept : ∀ {other : List Char}, (∀ c ∈ other.head?, isBlank c = false) →
      other.dropWhile isBlank = other := by
    intro other hother
    rcases other with _ | ⟨c, rest⟩
    · rfl
    · exact List.dropWhile_cons_of_neg (by simp [hother c rfl])
  -- from the right, the last character is the first one of the reversed text
  rw [trim, trimLeft, hkept h.1, trimRight, hkept, List.reverse_reverse]
  rw [List.head?_reverse]
  exact h.2

theorem isBlankText_eq_false (h : IsTrimmed text) (hne : text ≠ []) : isBlankText text = false := by
  obtain ⟨c, rest, rfl⟩ := List.exists_cons_of_ne_nil hne
  rw [isBlankText, List.all_cons, h.1 c rfl, Bool.false_and]

theorem IsTrimmed.append_cons {c : Char} {rest : List Char} (h : IsTrimmed text)
    (hrest : IsTrimmed rest) (hc : isBlank c = false) : IsTrimmed (text ++ c :: rest) := by
  constructor
  · intro first hfirst
    rcases text with _ | ⟨d, text⟩
    · cases hfirst
      exact hc
    · exact h.1 first hfirst
  · intro last hlast
    rw [List.getLast?_append] at hlast
    rcases rest with _ | ⟨d, rest⟩
    · cases hlast
      exact hc
    · rw [List.getLast?_cons_cons, List.getLast?_cons, Option.some_or] at hlast
      exact hrest.2 last (by rwa [List.getLast?_cons])

/-- Trimmed pieces with a character between them that is not blank make a trimmed text. -/
theorem isTrimmed_intercalate {c : Char} (hc : isBlank c = false) {pieces : List (List Char)}
    (h : ∀ piece ∈ pieces, IsTrimmed piece) : IsTrimmed ([c].intercalate pieces) := by
  induction pieces with
  | nil => exact ⟨nofun, nofun⟩
  | cons piece pieces ih =>
      obtain ⟨hpiece, hpieces⟩ := List.forall_mem_cons.1 h
      rcases pieces with _ | ⟨next, pieces⟩
      · rwa [List.intercalate_singleton]
      · rw [List.intercalate_cons_cons, List.append_assoc, List.singleton_append]
        exact hpiece.append_cons (ih hpieces) hc

theorem trim_ne_nil (h : isBlankText text = false) : trim text ≠ [] := by
  intro hnil
  rw [trim, trimRight, List.reverse_eq_nil_iff, List.dropWhile_eq_nil_iff] at hnil
  have hblank : trimLeft text = [] := by
    rcases hleft : trimLeft text with _ | ⟨c, rest⟩
    · rfl
    · -- what is left would begin with a character that is blank and is not
      have hfirst : isBlank c = false := by
        apply not_blank_of_mem_head?_trimLeft
        rw [hleft]
        rfl
      rw [hleft] at hnil
      rw [hnil c (by simp)] at hfirst
      cases hfirst
  rw [trimLeft, List.dropWhile_eq_nil_iff] at hblank
  rw [isBlankText, List.all_eq_true.2 hblank] at h
  cases h

end Text
end Typings
