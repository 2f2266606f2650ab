import Typings.Proofs.TypeText.Members
import Typings.Text.Pieces

/-!
# Unions at the top level

A bar inside brackets belongs to what the brackets enclose; the bars outside of them cut a type into
its alternatives. The angle bracket of an arrow closes nothing.

* `TypeText.Nesting`: how many brackets are open at a place of a text;
* `TypeText.alternatives`, `TypeText.IsUnion`: a type cut at its bars outside brackets;
* `TypeText.flatMap_splitOn_alternatives`: the pieces between all bars, by alternatives;
* `TypeText.gather`, `TypeText.alternatives_intercalate`: the alternatives of a joined text, those
  of its parts when parts with open brackets are put together.
-/

namespace Typings
namespace TypeText

/-! ## Brackets -/

/-- The number of open brackets at a place of a text, and whether an equals sign stands in front of
it. -/
structure Nesting where
  level : Nat := 0
  afterEquals : Bool := false
deriving DecidableEq

namespace Nesting

def step (nesting : Nesting) (c : Char) : Nesting where
  level :=
    if c ∈ ['(', '[', '\x7b', '<'] then nesting.level + 1
    else if c ∈ [')', ']', '\x7d'] ∨ c = '>' ∧ nesting.afterEquals = false then nesting.level - 1
    else nesting.level
  afterEquals := c = '='

/-- What is open behind a text. -/
def after (nesting : Nesting) (text : List Char) : Nesting :=
  text.foldl step nesting

theorem after_append (nesting : Nesting) (text rest : List Char) :
    nesting.after (text ++ rest) = (nesting.after text).after rest :=
  List.foldl_append

theorem step_bar (nesting : Nesting) : nesting.step '|' = { level := nesting.level } := by
  simp [step]

theorem after_bar (nesting : Nesting) : nesting.after ['|'] = { level := nesting.level } :=
  nesting.step_bar

end Nesting

/-! ## Alternatives -/

/-- A text cut at its bars outside brackets, when something is open in front of it. -/
def alternativesFrom (nesting : Nesting) : List Char → List (List Char)
  | [] => [[]]
  | c :: rest =>
      if c = '|' ∧ nesting.level = 0 then [] :: alternativesFrom {} rest
      else Text.consPiece c (alternativesFrom (nesting.step c) rest)

/-- A text cut at its bars outside brackets. -/
def alternatives (text : List Char) : List (List Char) :=
  alternativesFrom {} text

/-- The alternatives of a text without the blanks around them. -/
def unionMembers (text : List Char) : List (List Char) :=
  (alternatives text).map Text.trim

/-- A text with a bar outside brackets. -/
def IsUnion (text : List Char) : Prop :=
  1 < (alternatives text).length

instance (text : List Char) : Decidable (IsUnion text) :=
  Nat.decLt _ _

variable {nesting : Nesting} {text rest : List Char}

theorem alternativesFrom_ne_nil (nesting : Nesting) (text : List Char) :
    alternativesFrom nesting text ≠ [] := by
  fun_cases alternativesFrom nesting text with
  | case1 => simp
  | case2 => simp
  | case3 c rest h =>
      cases alternativesFrom (nesting.step c) rest <;> simp [Text.consPiece]

theorem exists_alternativesFrom (nesting : Nesting) (text : List Char) :
    ∃ first others, alternativesFrom nesting text = first :: others :=
  List.exists_cons_of_ne_nil (alternativesFrom_ne_nil nesting text)

/-- The pieces between all bars are those of the alternatives. -/
theorem flatMap_splitOn_alternativesFrom (nesting : Nesting) (text : List Char) :
    (alternativesFrom nesting text).flatMap (·.splitOn '|') = text.splitOn '|' := by
  fun_induction alternativesFrom nesting text with
  | case1 => rfl
  | case2 nesting c rest h ih =>
      rw [List.flatMap_cons, ih, List.splitOn_cons_eq_if_modifyHead, if_pos (by simp [h.1])]
      rfl
  | case3 nesting c rest h ih =>
      obtain ⟨first, others, hcut⟩ := exists_alternativesFrom (nesting.step c) rest
      rw [hcut] at ih ⊢
      rw [Text.consPiece, List.flatMap_cons, List.splitOn_cons_eq_if_modifyHead,
        List.splitOn_cons_eq_if_modifyHead, ← ih, List.flatMap_cons]
      -- inside brackets a bar ends a piece, but no alternative
      split
      · rfl
      · obtain ⟨piece, pieces, hpieces⟩ :=
          List.exists_cons_of_ne_nil (List.splitOn_ne_nil '|' first)
        rw [hpieces]
        rfl

theorem flatMap_splitOn_alternatives (text : List Char) :
    (alternatives text).flatMap (·.splitOn '|') = text.splitOn '|' :=
  flatMap_splitOn_alternativesFrom {} text

theorem one_lt_length_alternativesFrom (nesting : Nesting) (text : List Char) :
    1 < (alternativesFrom nesting text).length ↔
      ∃ front back, text = front ++ '|' :: back ∧ (nesting.after front).level = 0 := by
  fun_induction alternativesFrom nesting text with
  | case1 => simp
  | case2 nesting c rest h ih =>
      obtain ⟨first, others, hcut⟩ := exists_alternativesFrom {} rest
      refine iff_of_true ?_ ⟨[], rest, ?_, h.2⟩
      · simp [hcut]
      · rw [h.1, List.nil_append]
  | case3 nesting c rest h ih =>
      have hlength : (Text.consPiece c (alternativesFrom (nesting.step c) rest)).length =
          (alternativesFrom (nesting.step c) rest).length := by
        obtain ⟨first, others, hcut⟩ := exists_alternativesFrom (nesting.step c) rest
        rw [hcut]
        rfl
      rw [hlength, ih]
      constructor
      · rintro ⟨front, back, rfl, hlevel⟩
        exact ⟨c :: front, back, rfl, hlevel⟩
      · rintro ⟨front, back, htext, hlevel⟩
        rcases front with _ | ⟨d, front⟩
        · -- the bar would be the first character, outside brackets
          rw [List.nil_append, List.cons.injEq] at htext
          exact absurd ⟨htext.1, hlevel⟩ h
        · rw [List.cons_append, List.cons.injEq] at htext
          obtain ⟨rfl, rfl⟩ := htext
          exact ⟨front, back, rfl, hlevel⟩

/-- A union has a bar in front of which no bracket is open. -/
theorem isUnion_iff :
    IsUnion text ↔
      ∃ front back, text = front ++ '|' :: back ∧ (Nesting.after {} front).level = 0 :=
  one_lt_length_alternativesFrom {} text

/-! ## Texts behind each other -/

/-- What is behind the first alternatives of a text is behind those of a longer text. -/
theorem alternativesFrom_append {other : List Char} {more : List (List Char)}
    (h : alternativesFrom (nesting.after text) rest =
      alternativesFrom (nesting.after text) other ++ more) :
    alternativesFrom nesting (text ++ rest) = alternativesFrom nesting (text ++ other) ++ more := by
  induction text generalizing nesting with
  | nil => exact h
  | cons c text ih =>
      rw [List.cons_append, List.cons_append, alternativesFrom, alternativesFrom]
      split
      case isTrue hbar =>
        rw [List.cons_append]
        refine congrArg _ (ih ?_)
        have hempty : nesting.step c = {} := by rw [hbar.1, Nesting.step_bar, hbar.2]
        rwa [Nesting.after, List.foldl_cons, hempty] at h
      case isFalse =>
        rw [@ih (nesting.step c) h]
        obtain ⟨first, others, hcut⟩ := exists_alternativesFrom (nesting.step c) (text ++ other)
        rw [hcut]
        rfl

/-- A text that closes its brackets is cut by itself when a bar follows. -/
theorem alternativesFrom_append_bar (h : (nesting.after text).level = 0) :
    alternativesFrom nesting (text ++ '|' :: rest) =
      alternativesFrom nesting text ++ alternatives rest := by
  have hbar : alternativesFrom (nesting.after text) ('|' :: rest) =
      alternativesFrom (nesting.after text) [] ++ alternatives rest :=
    if_pos ⟨rfl, h⟩
  rw [alternativesFrom_append hbar, List.append_nil]

/-! ## Joined texts -/

/-- Parts of a joined text, put together as long as brackets are open. -/
def gatherFrom (level : Nat) : List (List Char) → List (List Char)
  | [] => []
  | part :: parts =>
      let behind := (Nesting.after { level } part).level
      if behind = 0 then part :: gatherFrom 0 parts
      else
        match gatherFrom behind parts with
        | [] => [part]
        | group :: groups => (part ++ '|' :: group) :: groups

/-- The texts that a joined text consists of, parts put together as long as brackets are open. -/
def gather (parts : List String) : List (List Char) :=
  gatherFrom 0 (parts.map String.toList)

theorem exists_gatherFrom (level : Nat) (part : List Char) (parts : List (List Char)) :
    ∃ group groups, gatherFrom level (part :: parts) = group :: groups := by
  rw [gatherFrom]
  split
  · exact ⟨_, _, rfl⟩
  · cases gatherFrom _ parts <;> exact ⟨_, _, rfl⟩

/-- The first group is cut with what is open in front of it, the others by themselves. -/
theorem alternativesFrom_intercalate {level : Nat} {parts groups : List (List Char)}
    {group : List Char} (h : gatherFrom level parts = group :: groups) :
    alternativesFrom { level } (['|'].intercalate parts) =
      alternativesFrom { level } group ++ groups.flatMap alternatives := by
  induction parts generalizing level group groups with
  | nil => cases h
  | cons part parts ih =>
      rw [gatherFrom] at h
      rcases parts with _ | ⟨next, parts⟩
      · -- one part is one group, whether it closes its brackets or not
        have hone : group = part ∧ groups = [] := by
          split at h
          all_goals
            cases h
            exact ⟨rfl, rfl⟩
        rw [hone.1, hone.2, List.intercalate_singleton, List.flatMap_nil, List.append_nil]
      · rw [List.intercalate_cons_cons, List.append_assoc, List.singleton_append]
        split at h
        case isTrue hclosed =>
          obtain ⟨first, others, hgather⟩ := exists_gatherFrom 0 next parts
          rw [hgather] at h
          cases h
          rw [alternativesFrom_append_bar hclosed, alternatives, ih hgather]
          rfl
        case isFalse hopen =>
          obtain ⟨first, others, hgather⟩ :=
            exists_gatherFrom (Nesting.after { level } part).level next parts
          rw [hgather] at h
          cases h
          have hrest : alternativesFrom (Nesting.after { level } (part ++ ['|']))
                (['|'].intercalate (next :: parts)) =
              alternativesFrom (Nesting.after { level } (part ++ ['|'])) first ++
                groups.flatMap alternatives := by
            rw [Nesting.after_append, Nesting.after_bar]
            exact ih hgather
          simpa using alternativesFrom_append hrest

/-- The alternatives of joined parts are those of the texts that the parts make up. -/
theorem alternatives_intercalate {parts : List String} (hne : parts ≠ []) :
    alternatives ("|".intercalate parts).toList = (gather parts).flatMap alternatives := by
  obtain ⟨part, parts, rfl⟩ := List.exists_cons_of_ne_nil hne
  obtain ⟨group, groups, hgather⟩ :=
    exists_gatherFrom 0 part.toList (parts.map String.toList)
  rw [gather, List.map_cons, hgather, String.toList_intercalate, List.map_cons]
  exact alternativesFrom_intercalate hgather

end TypeText
end Typings
