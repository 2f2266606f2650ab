import Typings.Proofs.Json.Regular
import Typings.Proofs.Json.Strings
import Typings.Proofs.Number.Shortest
import Typings.Proofs.Text.LineEnds

/-!
# Spellings of values

A value can be written with any gaps between its tokens. The writer chooses one of these spellings,
and a change of line ends leads from one to another.

* `Json.Spells`: the texts of a value, with room for so many values inside each other;
* `Json.spells_renderAt`: a regular value is spelled by what the writer makes of it;
* `Json.Spells.unifyLineEnds`: a spelling with other line ends still spells the value.
-/

namespace Typings
namespace Json

variable {room : Nat} {gap text rest : List Char}

/-- Blanks that may stand between tokens. -/
def Gap (gap : List Char) : Prop :=
  ∀ c ∈ gap, isGap c = true

mutual

/-- A text that spells a value; `room` bounds how deep values stand inside each other. -/
inductive Spells : Nat → Json → List Char → Prop where
  | null {room : Nat} : Spells room .null ['n', 'u', 'l', 'l']
  | true {room : Nat} : Spells room (.bool true) ['t', 'r', 'u', 'e']
  | false {room : Nat} : Spells room (.bool false) ['f', 'a', 'l', 's', 'e']
  | int {room : Nat} {value : Int} (hdigits : (decimalDigits value.natAbs).length ≤ maxDigits) :
      Spells room (.int value) (intText value)
  | float {room units : Nat} {negative : Bool} (h : Representable units)
      (hfinite : units < Binary64.overflow) :
      Spells room (.float (.finite negative units h))
        (Binary64.finite negative units h).shortestText.toList
  | str {room : Nat} {value : String} : Spells room (.str value) (quote value)
  | emptyArray {room : Nat} : Spells (room + 1) (.arr []) ['[', ']']
  | array {room : Nat} {items : List Json} {gap text : List Char} (hgap : Gap gap)
      (hitems : SpellsItems room items text) :
      Spells (room + 1) (.arr items) ('[' :: (gap ++ (text ++ [']'])))
  | emptyObject {room : Nat} : Spells (room + 1) (.obj []) ['\x7b', '\x7d']
  | object {room : Nat} {fields : List (String × Json)} {gap text : List Char} (hgap : Gap gap)
      (hkeys : (Table.keys fields).Nodup) (hfields : SpellsFields room fields text) :
      Spells (room + 1) (.obj fields) ('\x7b' :: (gap ++ (text ++ ['\x7d'])))

/-- A text that spells items up to the bracket that closes them. -/
inductive SpellsItems : Nat → List Json → List Char → Prop where
  | last {room : Nat} {item : Json} {gap text : List Char} (hitem : Spells room item text)
      (hgap : Gap gap) : SpellsItems room [item] (text ++ gap)
  | more {room : Nat} {item : Json} {items : List Json} {gap text others : List Char}
      (hitem : Spells room item text) (hgap : Gap gap)
      (hitems : SpellsItems room items others) :
      SpellsItems room (item :: items) (text ++ ',' :: (gap ++ others))

/-- A text that spells fields up to the brace that closes them. -/
inductive SpellsFields : Nat → List (String × Json) → List Char → Prop where
  | last {room : Nat} {key : String} {value : Json} {gap text : List Char}
      (hvalue : Spells room value text) (hgap : Gap gap) :
      SpellsFields room [(key, value)] (quote key ++ ':' :: ' ' :: (text ++ gap))
  | more {room : Nat} {key : String} {value : Json} {fields : List (String × Json)}
      {gap text others : List Char} (hvalue : Spells room value text) (hgap : Gap gap)
      (hfields : SpellsFields room fields others) :
      SpellsFields room ((key, value) :: fields)
        (quote key ++ ':' :: ' ' :: (text ++ ',' :: (gap ++ others)))

end

/-! ## First characters -/

/-- The first character neither belongs to a gap nor closes an array, and is no byte order mark. -/
def StartsValue (text : List Char) : Prop :=
  ∃ c others, text = c :: others ∧ isGap c = false ∧ c ≠ ']' ∧ c ≠ '\uFEFF'

theorem StartsValue.append (h : StartsValue text) (rest : List Char) :
    StartsValue (text ++ rest) := by
  rcases h with ⟨c, others, rfl, hstart⟩
  exact ⟨c, others ++ rest, rfl, hstart⟩

theorem startsValue_of_readNumber? {read : Except Excess Json × List Char}
    (h : readNumber? text = some read) : StartsValue text := by
  rcases exists_digit_of_readNumber? h with ⟨c, others, hdigit, rfl | rfl⟩
  · have hgap : ∀ blank : Char, isDigit blank = false → c ≠ blank := by
      rintro blank hblank rfl
      rw [hdigit] at hblank
      cases hblank
    refine ⟨c, others, rfl, ?_, hgap ']' rfl, hgap '\uFEFF' rfl⟩
    simp [isGap, hgap ' ' rfl, hgap '\t' rfl, hgap '\n' rfl, hgap '\r' rfl]
  · exact ⟨'-', c :: others, rfl, by decide, by decide⟩

theorem endsNumber_nil : EndsNumber [] := by
  simp [EndsNumber]

theorem startsValue_quote (value : String) : StartsValue (quote value) :=
  ⟨'"', _, rfl, by decide, by decide⟩

theorem Spells.startsValue {value : Json} (h : Spells room value text) : StartsValue text := by
  cases h with
  | null => exact ⟨'n', _, rfl, by decide, by decide⟩
  | true => exact ⟨'t', _, rfl, by decide, by decide⟩
  | false => exact ⟨'f', _, rfl, by decide, by decide⟩
  | int hdigits =>
      have hread := readNumber?_intText _ hdigits endsNumber_nil
      rw [List.append_nil] at hread
      exact startsValue_of_readNumber? hread
  | @float _ _ negative hunits hfinite =>
      have hread := Binary64.readNumber?_shortestText negative hunits hfinite endsNumber_nil
      rw [List.append_nil] at hread
      exact startsValue_of_readNumber? hread
  | str => exact startsValue_quote _
  | emptyArray => exact ⟨'[', _, rfl, by decide, by decide⟩
  | array hgap hitems => exact ⟨'[', _, rfl, by decide, by decide⟩
  | emptyObject => exact ⟨'\x7b', _, rfl, by decide, by decide⟩
  | object hgap hkeys hfields => exact ⟨'\x7b', _, rfl, by decide, by decide⟩

theorem SpellsItems.startsValue {items : List Json} (h : SpellsItems room items text) :
    StartsValue text := by
  cases h with
  | last hitem hgap => exact hitem.startsValue.append _
  | more hitem hgap hitems => exact hitem.startsValue.append _

theorem SpellsFields.startsValue {fields : List (String × Json)}
    (h : SpellsFields room fields text) : StartsValue text := by
  cases h with
  | last hvalue hgap => exact (startsValue_quote _).append _
  | more hvalue hgap hfields => exact (startsValue_quote _).append _

/-! ## What the writer makes -/

namespace Layout

/-- A layout that leaves nothing but gaps between tokens. -/
def IsBlank : Layout → Prop
  | .inline => True
  | .block unit => Gap unit

variable {layout : Layout}

theorem gap_lineBreak (h : layout.IsBlank) (level : Nat) : Gap (layout.lineBreak level) := by
  cases layout with
  | inline => simp [lineBreak, Gap]
  | block unit =>
      intro c hc
      rcases List.mem_cons.1 hc with rfl | hc
      · rfl
      · rcases List.mem_flatten.1 hc with ⟨copy, hcopy, hmem⟩
        rw [List.eq_of_mem_replicate hcopy] at hmem
        exact h c hmem

/-- A separator is a comma with a gap behind it. -/
theorem separator_eq_cons (h : layout.IsBlank) (level : Nat) :
    ∃ gap, Gap gap ∧ layout.separator level = ',' :: gap := by
  cases layout with
  | inline => exact ⟨[' '], by simp [Gap, isGap], rfl⟩
  | block unit => exact ⟨_, gap_lineBreak h level, rfl⟩

end Layout

section Writing

variable {layout : Layout}

theorem spellsItems_renderItems (hblank : layout.IsBlank) (hgap : Gap gap) {level : Nat}
    (item : Json) (items : List Json)
    (h : ∀ inner ∈ item :: items, Spells room inner (renderAt layout level inner)) :
    SpellsItems room (item :: items)
      (renderAt layout level item ++ (renderItems layout level items ++ gap)) := by
  induction items generalizing item with
  | nil => exact .last (h item List.mem_cons_self) hgap
  | cons next items ih =>
      rcases Layout.separator_eq_cons hblank level with ⟨between, hbetween, hseparator⟩
      have hothers := ih next fun inner hmem => h inner (List.mem_cons_of_mem item hmem)
      have hmore := SpellsItems.more (h item List.mem_cons_self) hbetween hothers
      simpa [renderItems, hseparator] using hmore

theorem spellsFields_renderFields (hblank : layout.IsBlank) (hgap : Gap gap) {level : Nat}
    (field : String × Json) (fields : List (String × Json))
    (h : ∀ inner ∈ field :: fields, Spells room inner.2 (renderAt layout level inner.2)) :
    SpellsFields room (field :: fields)
      (quote field.1 ++ ':' :: ' ' :: (renderAt layout level field.2 ++
        (renderFields layout level fields ++ gap))) := by
  induction fields generalizing field with
  | nil => exact .last (h field List.mem_cons_self) hgap
  | cons next fields ih =>
      rcases Layout.separator_eq_cons hblank level with ⟨between, hbetween, hseparator⟩
      have hothers := ih next fun inner hmem => h inner (List.mem_cons_of_mem field hmem)
      have hmore := @SpellsFields.more _ field.1 _ _ _ _ _ (h field List.mem_cons_self) hbetween
        hothers
      simpa [renderFields, hseparator] using hmore

/-- A regular value is spelled by what the writer makes of it. -/
theorem spells_renderAt (hblank : layout.IsBlank) {value : Json}
    (h : Regular Binary64.Writable room value) (level : Nat) :
    Spells room value (renderAt layout level value) := by
  induction value using Json.induct generalizing room level with
  | null => exact .null
  | bool value =>
      cases value
      · exact .false
      · exact .true
  | int value => exact .int h
  | float value =>
      rcases h with ⟨hfinite, hrange⟩
      cases value with
      | finite negative units hunits => exact .float hunits hrange
      | infinite negative => cases hfinite
      | notANumber => cases hfinite
  | str value => exact .str
  | arr items ih =>
      -- inside there is a level more of indentation and one of nesting less
      rcases regular_arr.1 h with ⟨hroom, hitems⟩
      obtain ⟨room, rfl⟩ : ∃ less, room = less + 1 := ⟨room - 1, by omega⟩
      rcases items with _ | ⟨item, items⟩
      · exact .emptyArray
      · have hinner : ∀ inner ∈ item :: items,
            Spells room inner (renderAt layout (level + 1) inner) := fun inner hmem =>
          ih inner hmem (hitems inner hmem) (level + 1)
        have hspells := Spells.array (Layout.gap_lineBreak hblank (level + 1))
          (spellsItems_renderItems hblank (Layout.gap_lineBreak hblank level) item items hinner)
        simpa [renderAt] using hspells
  | obj fields ih =>
      rcases regular_obj.1 h with ⟨hroom, hkeys, hfields⟩
      obtain ⟨room, rfl⟩ : ∃ less, room = less + 1 := ⟨room - 1, by omega⟩
      rcases fields with _ | ⟨field, fields⟩
      · exact .emptyObject
      · have hinner : ∀ inner ∈ field :: fields,
            Spells room inner.2 (renderAt layout (level + 1) inner.2) := fun inner hmem =>
          ih inner hmem (hfields inner hmem) (level + 1)
        have hspells := Spells.object (Layout.gap_lineBreak hblank (level + 1)) hkeys
          (spellsFields_renderFields hblank (Layout.gap_lineBreak hblank level) field fields hinner)
        simpa [renderAt] using hspells

end Writing

/-! ## Other line ends -/

section LineEnds

open Text (unifyLineEnds_cons unifyLineEnds_append_of_not_mem unifyLineEnds_append)

theorem not_mem_intText (value : Int) : '\r' ∉ intText value := by
  simp [intText, Binary64.not_mem_signText, Binary64.not_mem_decimalDigits]

theorem Gap.unifyLineEnds (hgap : Gap gap) : Gap (Text.unifyLineEnds gap) := by
  intro c hc
  rcases Text.mem_unifyLineEnds hc with hc | rfl
  · exact hgap c hc
  · rfl

theorem StartsValue.head?_ne (h : StartsValue text) : text.head? ≠ some '\n' := by
  rcases h with ⟨c, others, rfl, hgap, -⟩
  intro hhead
  cases hhead
  cases hgap

/-- A gap is unified by itself when a token follows. -/
theorem unifyLineEnds_gap (gap : List Char) (h : StartsValue text) (rest : List Char) :
    Text.unifyLineEnds (gap ++ (text ++ rest)) =
      Text.unifyLineEnds gap ++ Text.unifyLineEnds (text ++ rest) :=
  unifyLineEnds_append (h.append rest).head?_ne gap

mutual

/-- A spelling with other line ends still spells the value, whatever follows. -/
theorem Spells.unifyLineEnds {room : Nat} {value : Json} {text : List Char} :
    Spells room value text → ∃ unified, Spells room value unified ∧
      ∀ rest, Text.unifyLineEnds (text ++ rest) = unified ++ Text.unifyLineEnds rest
  | .null => ⟨_, .null, unifyLineEnds_append_of_not_mem (by decide)⟩
  | .true => ⟨_, .true, unifyLineEnds_append_of_not_mem (by decide)⟩
  | .false => ⟨_, .false, unifyLineEnds_append_of_not_mem (by decide)⟩
  | .int hdigits => ⟨_, .int hdigits, unifyLineEnds_append_of_not_mem (not_mem_intText _)⟩
  | .float h hfinite =>
      ⟨_, .float h hfinite, unifyLineEnds_append_of_not_mem (Binary64.not_mem_shortestText _)⟩
  | .str => ⟨_, .str, unifyLineEnds_append_of_not_mem (not_mem_quote _)⟩
  | .emptyArray => ⟨_, .emptyArray, unifyLineEnds_append_of_not_mem (by decide)⟩
  | .emptyObject => ⟨_, .emptyObject, unifyLineEnds_append_of_not_mem (by decide)⟩
  | @Spells.array _ _ gap _ hgap hitems => by
      -- a bracket begins with no line feed, so what is in front of it is unified by itself
      rcases hitems.unifyLineEnds with ⟨unified, hunified, hsame⟩
      refine ⟨_, .array hgap.unifyLineEnds hunified, ?_⟩
      intro rest
      have hclosing := hsame (']' :: rest) (by simp)
      simp [unifyLineEnds_cons, unifyLineEnds_gap gap hitems.startsValue, hclosing]
  | @Spells.object _ _ gap _ hgap hkeys hfields => by
      rcases hfields.unifyLineEnds with ⟨unified, hunified, hsame⟩
      refine ⟨_, .object hgap.unifyLineEnds hkeys hunified, ?_⟩
      intro rest
      have hclosing := hsame ('\x7d' :: rest) (by simp)
      simp [unifyLineEnds_cons, unifyLineEnds_gap gap hfields.startsValue, hclosing]

theorem SpellsItems.unifyLineEnds {room : Nat} {items : List Json} {text : List Char} :
    SpellsItems room items text → ∃ unified, SpellsItems room items unified ∧
      ∀ rest, rest.head? ≠ some '\n' →
        Text.unifyLineEnds (text ++ rest) = unified ++ Text.unifyLineEnds rest
  | @SpellsItems.last _ _ gap _ hitem hgap => by
      -- the gap at the end may be half of a line end, unless the other half does not follow
      rcases hitem.unifyLineEnds with ⟨unified, hunified, hsame⟩
      refine ⟨_, .last hunified hgap.unifyLineEnds, ?_⟩
      intro rest hrest
      simp [hsame, unifyLineEnds_append hrest gap]
  | @SpellsItems.more _ _ _ gap _ _ hitem hgap hitems => by
      rcases hitem.unifyLineEnds with ⟨unified, hunified, hsame⟩
      rcases hitems.unifyLineEnds with ⟨others, hothers, hrestSame⟩
      refine ⟨_, .more hunified hgap.unifyLineEnds hothers, ?_⟩
      intro rest hrest
      simp [hsame, unifyLineEnds_cons, unifyLineEnds_gap gap hitems.startsValue,
        hrestSame rest hrest]

theorem SpellsFields.unifyLineEnds {room : Nat} {fields : List (String × Json)}
    {text : List Char} :
    SpellsFields room fields text → ∃ unified, SpellsFields room fields unified ∧
      ∀ rest, rest.head? ≠ some '\n' →
        Text.unifyLineEnds (text ++ rest) = unified ++ Text.unifyLineEnds rest
  | @SpellsFields.last _ key _ gap _ hvalue hgap => by
      rcases hvalue.unifyLineEnds with ⟨unified, hunified, hsame⟩
      refine ⟨_, .last hunified hgap.unifyLineEnds, ?_⟩
      intro rest hrest
      simp [unifyLineEnds_append_of_not_mem (not_mem_quote key), hsame, unifyLineEnds_cons,
        unifyLineEnds_append hrest gap]
  | @SpellsFields.more _ key _ _ gap _ _ hvalue hgap hfields => by
      rcases hvalue.unifyLineEnds with ⟨unified, hunified, hsame⟩
      rcases hfields.unifyLineEnds with ⟨others, hothers, hrestSame⟩
      refine ⟨_, .more hunified hgap.unifyLineEnds hothers, ?_⟩
      intro rest hrest
      simp [unifyLineEnds_append_of_not_mem (not_mem_quote key), hsame, unifyLineEnds_cons,
        unifyLineEnds_gap gap hfields.startsValue, hrestSame rest hrest]

end

end LineEnds

end Json
end Typings
