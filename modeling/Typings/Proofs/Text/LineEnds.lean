import Typings.Text.Pieces

/-!
# Line ends in texts

What line ends written as LF leave of a text, character by character.

* `unifyLineEnds_append`: pieces of a text are unified by themselves, unless a CR and the LF
  behind it fall apart;
* `mem_unifyLineEnds`: no character is new but LF;
* `IsLine`, `isLine_of_mem_lines`, `isLine_flattenLines`: texts without line ends.
-/

namespace Typings
namespace Text

variable {c : Char} {text rest : List Char}

/-! ## Pieces between line ends -/

theorem lines_ne_nil (text : List Char) : lines text ≠ [] := by
  fun_cases lines text with
  | case4 c rest =>
      cases lines rest <;> simp [consPiece]
  | _ => simp

theorem intercalate_nil_cons {pieces : List (List Char)} (hne : pieces ≠ []) :
    ['\n'].intercalate ([] :: pieces) = '\n' :: ['\n'].intercalate pieces := by
  rcases pieces with _ | ⟨piece, pieces⟩
  · exact absurd rfl hne
  · rfl

theorem intercalate_consPiece (c : Char) (pieces : List (List Char)) :
    ['\n'].intercalate (consPiece c pieces) = c :: ['\n'].intercalate pieces := by
  rcases pieces with _ | ⟨piece, _ | ⟨next, pieces⟩⟩
  · rfl
  · simp [consPiece, List.intercalate]
  · simp [consPiece, List.intercalate]

/-! ## Texts without line ends -/

/-- A text that ends no line. -/
def IsLine (text : List Char) : Prop :=
  '\r' ∉ text ∧ '\n' ∉ text

theorem isLine_nil : IsLine [] :=
  ⟨List.not_mem_nil, List.not_mem_nil⟩

theorem IsLine.of_subset {line : List Char} (h : IsLine text) (hsubset : line ⊆ text) :
    IsLine line := by
  constructor
  · intro hreturn
    exact h.1 (hsubset hreturn)
  · intro hnewline
    exact h.2 (hsubset hnewline)

theorem isLine_cons : IsLine (c :: text) ↔ (c ≠ '\r' ∧ c ≠ '\n') ∧ IsLine text := by
  simp only [IsLine, List.mem_cons, not_or, eq_comm (a := c), ne_eq]
  exact and_and_and_comm

theorem IsLine.append (h : IsLine text) (h' : IsLine rest) : IsLine (text ++ rest) := by
  constructor
  · simpa using ⟨h.1, h'.1⟩
  · simpa using ⟨h.2, h'.2⟩

/-- No piece between line ends has one in it. -/
theorem isLine_of_mem_lines (text : List Char) : ∀ line ∈ lines text, IsLine line := by
  fun_induction lines text with
  | case1 => simpa using isLine_nil
  | case2 others ih => exact List.forall_mem_cons.2 ⟨isLine_nil, ih⟩
  | case3 c others hpair hend ih => exact List.forall_mem_cons.2 ⟨isLine_nil, ih⟩
  | case4 c others hpair hend ih =>
      have hplain : c ≠ '\r' ∧ c ≠ '\n' := not_or.1 hend
      -- the character goes to the first of the pieces behind it
      cases hpieces : lines others with
      | nil => exact absurd hpieces (lines_ne_nil others)
      | cons piece pieces =>
          rw [hpieces] at ih
          obtain ⟨hpiece, hmore⟩ := List.forall_mem_cons.1 ih
          have hfirst : IsLine (c :: piece) := isLine_cons.2 ⟨hplain, hpiece⟩
          exact List.forall_mem_cons.2 ⟨hfirst, hmore⟩

theorem isLine_intercalate {between : List Char} {pieces : List (List Char)}
    (hbetween : IsLine between) (h : ∀ piece ∈ pieces, IsLine piece) :
    IsLine (between.intercalate pieces) := by
  induction pieces with
  | nil => exact isLine_nil
  | cons piece others ih =>
      obtain ⟨hpiece, hothers⟩ := List.forall_mem_cons.1 h
      cases others with
      | nil => simpa using hpiece
      | cons next more =>
          rw [List.intercalate_cons_cons]
          exact (hpiece.append hbetween).append (ih hothers)

/-- A flattened text is one line. -/
theorem isLine_flattenLines (text : List Char) : IsLine (flattenLines text) := by
  apply isLine_intercalate
  · exact isLine_cons.2 ⟨by decide, isLine_nil⟩
  · exact isLine_of_mem_lines text

/-! ## One character at a time -/

theorem unifyLineEnds_nil : unifyLineEnds [] = [] := rfl

theorem unifyLineEnds_pair (rest : List Char) :
    unifyLineEnds ('\r' :: '\n' :: rest) = '\n' :: unifyLineEnds rest := by
  rw [unifyLineEnds, lines, intercalate_nil_cons (lines_ne_nil rest)]
  rfl

/-- A line end that is no CR before an LF is written as LF. -/
theorem unifyLineEnds_lineEnd (hend : c = '\r' ∨ c = '\n')
    (halone : ∀ later, c = '\r' → rest = '\n' :: later → False) :
    unifyLineEnds (c :: rest) = '\n' :: unifyLineEnds rest := by
  rw [unifyLineEnds, lines, if_pos hend, intercalate_nil_cons (lines_ne_nil rest)]
  · rfl
  · exact halone

theorem unifyLineEnds_cons (hc : c ≠ '\r') (rest : List Char) :
    unifyLineEnds (c :: rest) = c :: unifyLineEnds rest := by
  by_cases hnewline : c = '\n'
  · rw [unifyLineEnds_lineEnd (Or.inr hnewline) fun _ heq => absurd heq hc, hnewline]
  · rw [unifyLineEnds, lines, if_neg (by simp [hc, hnewline]), intercalate_consPiece]
    · rfl
    · intro later heq
      exact absurd heq hc

/-! ## Whole texts -/

/-- A text without CR stays as it is, whatever follows. -/
theorem unifyLineEnds_append_of_not_mem (h : '\r' ∉ text) (rest : List Char) :
    unifyLineEnds (text ++ rest) = text ++ unifyLineEnds rest := by
  induction text with
  | nil => rfl
  | cons c others ih =>
      rw [List.mem_cons, not_or] at h
      rw [List.cons_append, unifyLineEnds_cons (Ne.symm h.1), ih h.2, List.cons_append]

/-- A text that does not go on with LF is unified by itself. -/
theorem unifyLineEnds_append (hrest : rest.head? ≠ some '\n') (text : List Char) :
    unifyLineEnds (text ++ rest) = unifyLineEnds text ++ unifyLineEnds rest := by
  fun_induction lines text with
  | case1 => rfl
  | case2 others ih =>
      rw [List.cons_append, List.cons_append, unifyLineEnds_pair, unifyLineEnds_pair, ih,
        List.cons_append]
  | case3 c others hpair hend ih =>
      -- what follows does not make the line end a part of a longer one
      have hjoined : ∀ later, c = '\r' → others ++ rest = '\n' :: later → False := by
        intro later hreturn heq
        rcases others with _ | ⟨next, others⟩
        · rw [List.nil_append] at heq
          rw [heq] at hrest
          exact hrest rfl
        · rw [List.cons_append, List.cons.injEq] at heq
          exact hpair others hreturn (by rw [heq.1])
      rw [List.cons_append, unifyLineEnds_lineEnd hend hpair, unifyLineEnds_lineEnd hend hjoined,
        ih, List.cons_append]
  | case4 c others hpair hend ih =>
      have hc : c ≠ '\r' := fun heq => hend (Or.inl heq)
      rw [List.cons_append, unifyLineEnds_cons hc, unifyLineEnds_cons hc, ih, List.cons_append]

theorem mem_unifyLineEnds (h : c ∈ unifyLineEnds text) : c ∈ text ∨ c = '\n' := by
  fun_induction lines text with
  | case1 => cases h
  | case2 others ih =>
      rw [unifyLineEnds_pair, List.mem_cons] at h
      rcases h with rfl | h
      · exact Or.inr rfl
      · refine (ih h).imp_left fun hmem => ?_
        exact List.mem_cons_of_mem _ (List.mem_cons_of_mem _ hmem)
  | case3 d others hpair hend ih =>
      rw [unifyLineEnds_lineEnd hend hpair, List.mem_cons] at h
      rcases h with rfl | h
      · exact Or.inr rfl
      · exact (ih h).imp_left (List.mem_cons_of_mem d)
  | case4 d others hpair hend ih =>
      have hd : d ≠ '\r' := fun heq => hend (Or.inl heq)
      rw [unifyLineEnds_cons hd, List.mem_cons] at h
      rcases h with rfl | h
      · exact Or.inl List.mem_cons_self
      · exact (ih h).imp_left (List.mem_cons_of_mem d)

end Text
end Typings
