/-!
# Joined texts

* `not_mem_of_mem_splitOn`: the pieces of a text do not hold what it is cut at;
* `splitOn_intercalate`: a joined text is cut into the texts that were joined.
-/

namespace Typings
namespace Text

variable {c : Char} {between : String} {text piece : List Char} {pieces : List String}

theorem not_mem_of_mem_splitOn (h : piece ∈ text.splitOn c) : c ∉ piece := by
  induction text generalizing piece with
  | nil =>
      rw [List.splitOn_nil, List.mem_singleton] at h
      rw [h]
      exact List.not_mem_nil
  | cons first rest ih =>
      rw [List.splitOn_cons_eq_if_modifyHead] at h
      split at h
      case isTrue =>
        rcases List.mem_cons.1 h with rfl | h
        · exact List.not_mem_nil
        · exact ih h
      case isFalse hfirst =>
        -- the first character goes to the first piece of the rest
        obtain ⟨head, tail, hpieces⟩ :=
          List.exists_cons_of_ne_nil (List.splitOn_ne_nil c rest)
        rw [hpieces] at h ih
        rw [List.modifyHead_cons, List.mem_cons] at h
        rcases h with rfl | h
        · rw [List.mem_cons, not_or]
          exact ⟨fun heq => hfirst (by simp [heq]), ih List.mem_cons_self⟩
        · exact ih (List.mem_cons_of_mem _ h)

/-- Joined texts are found again when none of them holds the character between them. -/
theorem splitOn_intercalate (hbetween : between.toList = [c]) (hne : pieces ≠ [])
    (hfree : ∀ piece ∈ pieces, c ∉ piece.toList) :
    (between.intercalate pieces).toList.splitOn c = pieces.map String.toList := by
  rw [String.toList_intercalate, hbetween]
  exact List.splitOn_intercalate c (List.forall_mem_map.2 hfree) (mt List.map_eq_nil_iff.1 hne)

end Text
end Typings
