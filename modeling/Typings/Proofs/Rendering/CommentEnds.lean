import Typings.Proofs.Text.LineEnds
import Typings.Proofs.Text.Trimmed
import Typings.Rendering.Block

/-!
# Where comments end

A comment is read up to the first `*/` behind its opening. Whatever description and tags it is made
from, a comment has that end once, as its last two characters, and so nothing of these texts is read
as a declaration.

* `Comment.EndsOnce`: a text with one end of a comment, the last thing in it;
* `Comment.behind?`: what a reader finds behind the comment at the front of a text;
* `Comment.unended_escapeEnd`, `Comment.unended_join`: texts without such an end;
* `Comment.format_endsOnce`: the shape of every comment, and what is behind it in a block.
-/

namespace Typings
namespace Comment

variable {text front back body : List Char} {c : Char}

/-! ## Ends of comments -/

/-- What ends a comment. -/
def mark : List Char := ['*', '/']

/-- Nothing in the text ends a comment. -/
def Unended (text : List Char) : Prop :=
  ¬ mark <:+: text

/-- The text ends a comment with its last two characters, and nowhere before. -/
def EndsOnce (text : List Char) : Prop :=
  mark <:+ text ∧ ∀ front back, text = front ++ mark ++ back → back = []

/-- What stands behind the first end of a comment. -/
def behindMark? : List Char → Option (List Char)
  | [] => none
  | '*' :: '/' :: rest => some rest
  | _ :: rest => behindMark? rest

/-- What stands behind the comment at the front of a text. -/
def behind? : List Char → Option (List Char)
  | '/' :: '*' :: rest => behindMark? rest
  | _ => none

/-! ## Texts without an end -/

theorem Unended.of_within (h : Unended text) (hwithin : body <:+: text) : Unended body := by
  intro hmark
  exact h (hmark.trans hwithin)

theorem unended_cons : Unended (c :: text) ↔ ¬ (c = '*' ∧ text.head? = some '/') ∧ Unended text := by
  have hstarts : mark <+: c :: text ↔ c = '*' ∧ text.head? = some '/' := by
    cases text with
    | nil => simp [mark]
    | cons next rest => simp [mark, List.cons_prefix_cons, eq_comm]
  rw [Unended, List.infix_cons_iff, not_or, hstarts]
  rfl

theorem unended_nil : Unended [] := by
  simp [Unended, mark]

/-- Texts without an end are put together without one, unless it comes up at the seam. -/
theorem Unended.append (hfront : Unended front) (hback : Unended back)
    (hseam : ¬ (front.getLast? = some '*' ∧ back.head? = some '/')) : Unended (front ++ back) := by
  induction front with
  | nil => exact hback
  | cons first rest ih =>
      obtain ⟨hfirst, hrest⟩ := unended_cons.1 hfront
      rw [List.cons_append]
      cases rest with
      | nil =>
          -- the seam lies behind the only character in front
          have hnone : ¬ (first = '*' ∧ back.head? = some '/') := by simpa using hseam
          exact unended_cons.2 ⟨hnone, hback⟩
      | cons next more =>
          have hlater : ¬ ((next :: more).getLast? = some '*' ∧ back.head? = some '/') := by
            simpa using hseam
          exact unended_cons.2 ⟨hfirst, ih hrest hlater⟩

/-- No end comes up where lines are joined. -/
theorem unended_join {lines : List (List Char)} (h : ∀ line ∈ lines, Unended line) :
    Unended (['\n'].intercalate lines) := by
  induction lines with
  | nil => exact unended_nil
  | cons line others ih =>
      obtain ⟨hline, hothers⟩ := List.forall_mem_cons.1 h
      cases others with
      | nil => simpa using hline
      | cons next more =>
          have hend : Unended ['\n'] := unended_cons.2 ⟨by decide, unended_nil⟩
          rw [List.intercalate_cons_cons]
          apply Unended.append
          · exact hline.append hend (by simp)
          · exact ih hothers
          · simp

/-! ## Reading comments -/

/-- A reader stops at the first end. -/
theorem behindMark?_append (h : Unended (body ++ ['*'])) (rest : List Char) :
    behindMark? (body ++ mark ++ rest) = some rest := by
  induction body with
  | nil => rfl
  | cons first others ih =>
      obtain ⟨hfirst, hothers⟩ := unended_cons.1 h
      have hnot : ∀ later, first = '*' → others ++ mark ++ rest = '/' :: later → False := by
        intro later hstar hslash
        apply hfirst
        refine ⟨hstar, ?_⟩
        cases others with
        | nil => simp [mark] at hslash
        | cons next more =>
            have hnext : next = '/' := by
              simp only [List.cons_append, List.cons.injEq] at hslash
              exact hslash.1
            simp [hnext]
      -- the first character is read over, as it does not begin an end
      rw [List.cons_append, List.cons_append, behindMark?]
      · exact ih hothers
      · exact hnot

theorem endsOnce_append (h : Unended (body ++ ['*'])) : EndsOnce (body ++ mark) := by
  refine ⟨List.suffix_append body mark, ?_⟩
  intro front back heq
  rcases List.eq_nil_or_concat back with hnil | ⟨others, last, hconcat⟩
  · exact hnil
  · -- an end before the last one lies in front of the last character
    exfalso
    apply h
    have hboth : (body ++ ['*']) ++ ['/'] = (front ++ mark ++ others) ++ [last] := by
      calc (body ++ ['*']) ++ ['/'] = body ++ mark := by simp [mark]
        _ = front ++ mark ++ back := heq
        _ = (front ++ mark ++ others) ++ [last] := by simp [hconcat]
    have hfront : body ++ ['*'] = front ++ mark ++ others := (List.append_inj' hboth rfl).1
    exact ⟨front, others, hfront.symm⟩

/-! ## Escaped texts -/

theorem head?_escapeEnd (text : List Char) : (escapeEnd text).head? = text.head? := by
  fun_cases escapeEnd text <;> rfl

/-- In an escaped text nothing ends a comment. -/
theorem unended_escapeEnd (text : List Char) : Unended (escapeEnd text) := by
  fun_induction escapeEnd text with
  | case1 => exact unended_nil
  | case2 rest ih =>
      -- the backslash keeps the two characters apart
      refine unended_cons.2 ⟨by simp, ?_⟩
      refine unended_cons.2 ⟨by simp, ?_⟩
      exact unended_cons.2 ⟨by simp, ih⟩
  | case3 first rest hpair ih =>
      refine unended_cons.2 ⟨?_, ih⟩
      rintro ⟨hstar, hslash⟩
      rw [head?_escapeEnd] at hslash
      obtain ⟨others, hothers⟩ := List.head?_eq_some_iff.1 hslash
      exact hpair others hstar hothers

/-- Escaping ends no line that was whole before. -/
theorem isLine_escapeEnd (h : Text.IsLine text) : Text.IsLine (escapeEnd text) := by
  fun_induction escapeEnd text with
  | case1 => exact h
  | case2 rest ih =>
      obtain ⟨-, hslash⟩ := Text.isLine_cons.1 h
      have hrest : Text.IsLine (escapeEnd rest) := ih (Text.isLine_cons.1 hslash).2
      simpa [Text.isLine_cons] using hrest
  | case3 first rest hpair ih =>
      obtain ⟨hfirst, hrest⟩ := Text.isLine_cons.1 h
      exact Text.isLine_cons.2 ⟨hfirst, ih hrest⟩

/-- The margin of a line is not escaped. -/
theorem escapeEnd_margin (text : List Char) :
    escapeEnd (margin ++ text) = [' ', '*'] ++ ' ' :: escapeEnd text := by
  simp [margin, escapeEnd]

/-! ## Lines of a comment -/

/-- A line between the first and the last of a comment. -/
structure IsInner (line : List Char) : Prop where
  unended : Unended line
  margin : [' ', '*'] <+: line
  whole : Text.IsLine line

theorem isLine_margin : Text.IsLine margin := by
  simp [Text.IsLine, margin]

theorem isInner_tagLine (tag : List Char) : IsInner (tagLine tag) where
  unended := unended_escapeEnd _
  margin := by
    rw [tagLine, escapeEnd_margin]
    exact List.prefix_append _ _
  whole := isLine_escapeEnd (isLine_margin.append (Text.isLine_flattenLines tag))

/-- What is trimmed from a line leaves its margin, but for the blank at its end. -/
theorem isInner_descriptionLine {line : List Char} (h : Text.IsLine line) :
    IsInner (descriptionLine line) := by
  have htrimmed : Text.IsLine (Text.trimRight line) :=
    h.of_subset (Text.isPrefix_trimRight line).subset
  have hstarts := Text.isPrefix_trimRight (escapeEnd (margin ++ Text.trimRight line))
  constructor
  · exact (unended_escapeEnd _).of_within hstarts.isInfix
  · rw [descriptionLine, escapeEnd_margin]
    have hkept := Text.trimRight_append_cons [' '] (' ' :: escapeEnd (Text.trimRight line))
      (show Text.isBlank '*' = false by decide)
    rw [List.cons_append, List.cons_append, List.nil_append] at hkept ⊢
    rw [hkept]
    simp [List.cons_prefix_cons]
  · exact (isLine_escapeEnd (isLine_margin.append htrimmed)).of_subset hstarts.subset

theorem isInner_descriptionLines (description : List Char) :
    ∀ line ∈ descriptionLines description, IsInner line := by
  intro line hline
  rw [descriptionLines] at hline
  split at hline
  case isTrue => cases hline
  case isFalse =>
    obtain ⟨piece, hpiece, rfl⟩ := List.mem_map.1 hline
    exact isInner_descriptionLine (Text.isLine_of_mem_lines _ piece hpiece)

/-! ## Whole comments -/

/-- The lines between the first and the last of a comment. -/
def innerLines (description : String) (tags : List String) : List (List Char) :=
  descriptionLines description.toList ++ tags.map (tagLine ·.toList)

theorem isInner_innerLines (description : String) (tags : List String) :
    ∀ line ∈ innerLines description tags, IsInner line := by
  intro line hline
  rcases List.mem_append.1 hline with hdescribed | htagged
  · exact isInner_descriptionLines description.toList line hdescribed
  · obtain ⟨tag, -, rfl⟩ := List.mem_map.1 htagged
    exact isInner_tagLine tag.toList

/-- The first line of a comment and those behind it, without the last. -/
def opened (description : String) (tags : List String) : List (List Char) :=
  ['/', '*', '*'] :: innerLines description tags

theorem map_toList_format (description : String) (tags : List String) :
    (format description tags).map String.toList = opened description tags ++ [[' ', '*', '/']] := by
  simp [format, opened, innerLines, Function.comp_def]

theorem intercalate_concat {pieces : List (List Char)} (hne : pieces ≠ [])
    (between last : List Char) :
    between.intercalate (pieces ++ [last]) = between.intercalate pieces ++ between ++ last := by
  induction pieces with
  | nil => exact absurd rfl hne
  | cons piece others ih =>
      cases others with
      | nil => simp [List.intercalate_cons_cons]
      | cons next more =>
          have hmore := ih (List.cons_ne_nil next more)
          rw [List.cons_append, List.cons_append, List.intercalate_cons_cons, ← List.cons_append,
            hmore, List.intercalate_cons_cons]
          simp only [List.append_assoc]

/-- The text of a comment in front of its end. -/
def bodyText (description : String) (tags : List String) : List Char :=
  ['\n'].intercalate (opened description tags) ++ ['\n'] ++ [' ']

theorem toList_joined (description : String) (tags : List String) :
    ("\n".intercalate (format description tags)).toList = bodyText description tags ++ mark := by
  have hopened : opened description tags ≠ [] := List.cons_ne_nil _ _
  rw [String.toList_intercalate, map_toList_format]
  have hlast := intercalate_concat hopened ['\n'] [' ', '*', '/']
  rw [show "\n".toList = ['\n'] from rfl, hlast, bodyText, mark]
  simp

theorem unended_bodyText (description : String) (tags : List String) :
    Unended (bodyText description tags ++ ['*']) := by
  have hopened : opened description tags ≠ [] := List.cons_ne_nil _ _
  have hlast := intercalate_concat hopened ['\n'] [' ', '*']
  have hjoined : bodyText description tags ++ ['*'] =
      ['\n'].intercalate (opened description tags ++ [[' ', '*']]) := by
    rw [hlast, bodyText]
    simp
  -- line by line: the first and the last hold no end, and those between are escaped
  rw [hjoined]
  apply unended_join
  intro line hline
  rcases List.mem_append.1 hline with hmem | hmem
  · rcases List.mem_cons.1 hmem with rfl | hinner
    · simp [unended_cons, unended_nil]
    · exact (isInner_innerLines description tags line hinner).unended
  · rw [List.mem_singleton.1 hmem]
    simp [unended_cons, unended_nil]

/-- Every comment opens at its front. -/
theorem exists_bodyText (description : String) (tags : List String) :
    ∃ inside, bodyText description tags = '/' :: '*' :: inside := by
  rw [bodyText, opened]
  cases innerLines description tags with
  | nil => exact ⟨['*', '\n', ' '], rfl⟩
  | cons line others =>
      rw [List.intercalate_cons_cons]
      exact ⟨'*' :: ('\n' :: ['\n'].intercalate (line :: others) ++ ['\n'] ++ [' ']), by simp⟩

/-- A reader finds behind a comment what stands behind it. -/
theorem behind?_joined (description : String) (tags : List String) (rest : List Char) :
    behind? (("\n".intercalate (format description tags)).toList ++ rest) = some rest := by
  obtain ⟨inside, hinside⟩ := exists_bodyText description tags
  have hunended := unended_bodyText description tags
  rw [hinside] at hunended
  have hsuffix : inside ++ ['*'] <:+: '/' :: '*' :: inside ++ ['*'] :=
    (List.suffix_append ['/', '*'] (inside ++ ['*'])).isInfix
  -- the reader skips the opening, and there is no end before the last one
  rw [toList_joined, hinside]
  exact behindMark?_append (hunended.of_within hsuffix) rest

/-- Behind the comment of a block comes its signature. -/
theorem behind?_block (method : Method) (description : String) (parameters : List Parameter)
    (outcome : Outcome) :
    (method.block description parameters outcome).map (fun block => behind? block.toList) =
      (method.signature parameters outcome.type).map fun signature =>
        some ('\n' :: signature.toList) := by
  rw [Method.block]
  cases method.signature parameters outcome.type with
  | error error => rfl
  | ok signature =>
      have hformat : format description (Method.tags parameters outcome) ≠ [] := by
        simp [format]
      have hjoined := @String.intercalate_append_of_ne_nil _ _ "\n" hformat
        (List.cons_ne_nil signature [])
      have hblock := behind?_joined description (Method.tags parameters outcome)
        ('\n' :: signature.toList)
      apply congrArg Except.ok
      calc behind? ("\n".intercalate
            (format description (Method.tags parameters outcome) ++ [signature])).toList
          = behind? (("\n".intercalate
              (format description (Method.tags parameters outcome))).toList ++
                '\n' :: signature.toList) := by simp [hjoined]
        _ = some ('\n' :: signature.toList) := hblock

/-- Every comment has one end, the last thing in it. Its lines are whole, those between the first and
the last have the margin, and there is one for each tag behind those of the description. A reader
finds behind it what stands behind it, and so in a block nothing but the signature. -/
theorem format_endsOnce (description : String) (tags : List String) :
    let lines := format description tags
    let text := ("\n".intercalate lines).toList
    let tagged := tags.map fun tag => String.ofList (tagLine tag.toList)
    EndsOnce text ∧
    (∀ line ∈ lines, '\r' ∉ line.toList ∧ '\n' ∉ line.toList) ∧
    (∃ described, format description [] = "/**" :: described ++ [" */"] ∧
      lines = "/**" :: (described ++ tagged) ++ [" */"] ∧
      ∀ line ∈ described ++ tagged, [' ', '*'] <+: line.toList) ∧
    (∀ rest, behind? (text ++ rest) = some rest) ∧
    ∀ method parameters outcome,
      (Method.block method description parameters outcome).map (fun block => behind? block.toList) =
        (method.signature parameters outcome.type).map fun signature =>
          some ('\n' :: signature.toList) := by
  intro lines text tagged
  have hinner := isInner_innerLines description tags
  refine ⟨?_, ?_, ?_, behind?_joined description tags, ?_⟩
  · have hends := endsOnce_append (unended_bodyText description tags)
    rwa [← toList_joined] at hends
  · intro line hline
    have hmem : line.toList ∈ opened description tags ++ [[' ', '*', '/']] := by
      rw [← map_toList_format]
      exact List.mem_map_of_mem hline
    rcases List.mem_append.1 hmem with hopened | hlast
    · rcases List.mem_cons.1 hopened with hfirst | hbetween
      · simp [hfirst]
      · exact (hinner line.toList hbetween).whole
    · simp [List.mem_singleton.1 hlast]
  · refine ⟨(descriptionLines description.toList).map String.ofList, by simp [format], ?_, ?_⟩
    · simp [lines, tagged, format]
    · intro line hline
      have hmem : line.toList ∈ innerLines description tags := by
        have hmapped : line.toList ∈ ((descriptionLines description.toList).map String.ofList ++
            tagged).map String.toList := List.mem_map_of_mem hline
        simpa [tagged, innerLines, Function.comp_def] using hmapped
      exact (hinner line.toList hmem).margin
  · intro method parameters outcome
    exact behind?_block method description parameters outcome

end Comment
end Typings
