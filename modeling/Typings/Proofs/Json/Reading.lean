import Typings.Proofs.Json.Spelling

/-!
# Values read from their spellings

Whatever gaps stand between its tokens, a value is read from each of its spellings, and nothing
behind a spelling is touched.

* `Json.readValue_of_spells`: a value is read from the front of a text;
* `Json.parse_of_spells`: a value is read from a text that spells it;
* `Json.parse_render`: a regular value is read from what the writer makes of it.
-/

namespace Typings

theorem Table.put_of_not_mem {α : Type} {key : String} {value : α} {table : Table α}
    (h : key ∉ Table.keys table) : Table.put key value table = table ++ [(key, value)] := by
  induction table with
  | nil => rfl
  | cons pair table ih =>
      rcases pair with ⟨other, old⟩
      simp only [Table.keys, List.map_cons, List.mem_cons, not_or] at h
      rw [Table.put, if_neg (Ne.symm h.1), ih h.2, List.cons_append]

/-- A table with distinct keys is what its pairs write. -/
theorem Table.ofPairs_of_nodup {α : Type} {pairs : Table α} (h : (Table.keys pairs).Nodup) :
    Table.ofPairs pairs = pairs := by
  have hput : ∀ (pairs table : Table α), (Table.keys (table ++ pairs)).Nodup →
      pairs.foldl (fun table pair => table.put pair.1 pair.2) table = table ++ pairs := by
    intro pairs
    induction pairs with
    | nil => simp
    | cons pair pairs ih =>
        intro table hnodup
        have hnew : pair.1 ∉ Table.keys table := by
          simp only [Table.keys, List.map_append, List.map_cons] at hnodup ⊢
          exact fun hmem => (List.nodup_append.1 hnodup).2.2 _ hmem _ List.mem_cons_self rfl
        rw [List.foldl_cons, Table.put_of_not_mem hnew, ih _ (by simpa using hnodup)]
        simp
  simpa [Table.ofPairs] using hput pairs [] (by simpa using h)

namespace Json

variable {room bound : Nat} {gap text rest : List Char} {value : Json}

/-! ## Gaps -/

theorem skipGap_of_head (h : ∀ c ∈ rest.head?, isGap c = false) : skipGap rest = rest := by
  rcases rest with _ | ⟨c, rest⟩
  · rfl
  · simp [skipGap, h c rfl]

theorem skipGap_append (hgap : Gap gap) (rest : List Char) :
    skipGap (gap ++ rest) = skipGap rest :=
  List.dropWhile_append_of_pos hgap

theorem StartsValue.skipGap (h : StartsValue text) (rest : List Char) :
    Json.skipGap (text ++ rest) = text ++ rest := by
  rcases h with ⟨c, others, rfl, hgap, -⟩
  refine skipGap_of_head ?_
  rintro d hd
  cases hd
  exact hgap

theorem StartsValue.length_pos (h : StartsValue text) : 0 < text.length := by
  rcases h with ⟨c, others, rfl, -⟩
  simp

theorem SpellsFields.head?_append {fields : List (String × Json)}
    (h : SpellsFields room fields text) (rest : List Char) : (text ++ rest).head? = some '"' := by
  cases h <;> rfl

theorem endsNumber_cons {c : Char} (hdigit : isDigit c = false)
    (hmark : c ≠ '.' ∧ c ≠ 'e' ∧ c ≠ 'E') : EndsNumber (c :: rest) := by
  rintro d hd
  cases hd
  exact ⟨hdigit, hmark⟩

/-- Neither a gap nor what closes a number belongs to it. -/
theorem EndsNumber.gap_append (hgap : Gap gap) (hrest : EndsNumber rest) :
    EndsNumber (gap ++ rest) := by
  rcases gap with _ | ⟨c, others⟩
  · exact hrest
  · have hc := hgap c List.mem_cons_self
    simp only [isGap, Bool.or_eq_true, decide_eq_true_eq] at hc
    rcases hc with ((rfl | rfl) | rfl) | rfl <;> exact endsNumber_cons (by decide) (by decide)

/-! ## Scalars -/

/-- No word starts like a number. -/
theorem find?_words_of_readNumber? {read : Except Excess Json × List Char}
    (h : readNumber? text = some read) :
    (words.find? fun word => word.1.isPrefixOf text) = none := by
  have hdigit : ∀ c, isDigit c = true → ∀ letter, isDigit letter = false →
      (letter == c) = false := by
    intro c hc letter hletter
    rw [beq_eq_false_iff_ne]
    rintro rfl
    rw [hc] at hletter
    cases hletter
  -- a sign leaves one word to be told apart, by what stands behind the sign
  rcases exists_digit_of_readNumber? h with ⟨c, others, hc, rfl | rfl⟩
  · have hn := hdigit c hc 'n' rfl
    have ht := hdigit c hc 't' rfl
    have hf := hdigit c hc 'f' rfl
    have hN := hdigit c hc 'N' rfl
    have hI := hdigit c hc 'I' rfl
    have hminus := hdigit c hc '-' rfl
    simp [words, List.isPrefixOf, *]
  · have hI := hdigit c hc 'I' rfl
    simp [words, List.isPrefixOf, hI]

theorem readScalar_of_readNumber? (h : readNumber? text = some (.ok value, rest)) :
    readScalar text = .ok (value, rest) := by
  rw [readScalar, find?_words_of_readNumber? h, h]

/-- A number is no string, no array and no object. -/
theorem readValue_of_readNumber? (h : readNumber? text = some (.ok value, rest)) :
    readValue room (bound + 1) text = .ok (value, rest) := by
  rw [← readScalar_of_readNumber? h]
  rcases exists_digit_of_readNumber? h with ⟨c, others, hc, rfl | rfl⟩
  · rw [readValue]
    all_goals
      intro later heq
      cases heq
      exact absurd hc (by decide)
  · rw [readValue] <;> simp

/-! ## Containers -/

@[simp] theorem ok_bind {α β : Type} (value : α) (next : α → Except Failure β) :
    (Except.ok value >>= next) = next value := rfl

theorem readValue_arr {opened : List Char} {items : List Json}
    (hopened : skipGap opened = text) (hstart : StartsValue text)
    (hitems : readItems room bound text = .ok (items, rest)) :
    readValue (room + 1) (bound + 1) ('[' :: opened) = .ok (.arr items, rest) := by
  rcases hstart with ⟨c, others, rfl, -, hbracket, -⟩
  simp [readValue, hopened, hbracket, hitems]

theorem readValue_obj {opened : List Char} {fields : List (String × Json)}
    (hopened : skipGap opened = text) (hstart : text.head? = some '"')
    (hkeys : (Table.keys fields).Nodup)
    (hfields : readFields room bound text = .ok (fields, rest)) :
    readValue (room + 1) (bound + 1) ('\x7b' :: opened) = .ok (.obj fields, rest) := by
  rcases text with _ | ⟨c, others⟩
  · cases hstart
  · cases hstart
    simp [readValue, hopened, hfields, Table.ofPairs_of_nodup hkeys]

theorem skipGap_closing {c : Char} (hgap : Gap gap) (hclosing : isGap c = false) :
    skipGap (gap ++ c :: rest) = c :: rest := by
  rw [skipGap_append hgap]
  refine skipGap_of_head ?_
  rintro d hd
  cases hd
  exact hclosing

theorem StartsValue.skipGap_gap (h : StartsValue text) (hgap : Gap gap) (rest : List Char) :
    Json.skipGap (gap ++ (text ++ rest)) = text ++ rest := by
  rw [skipGap_append hgap, h.skipGap]

theorem readName_quote (key : String) (hstart : StartsValue text) (rest : List Char) :
    readName (quote key ++ ':' :: ' ' :: (text ++ rest)) = .ok (key, text ++ rest) := by
  have hcolon : skipGap (':' :: ' ' :: (text ++ rest)) = ':' :: ' ' :: (text ++ rest) :=
    skipGap_of_head (by simp [isGap])
  have hblank : skipGap ([' '] ++ (text ++ rest)) = text ++ rest :=
    hstart.skipGap_gap (by simp [Gap, isGap]) rest
  rw [List.singleton_append] at hblank
  simp [readName, quote, readString_escaped, hcolon, hblank]

/-! ## Items and fields -/

section Members

variable {key : String} {items : List Json} {fields : List (String × Json)} {others : List Char}

theorem readItems_last (hvalue : readValue room bound text = .ok (value, gap ++ ']' :: rest))
    (hgap : Gap gap) : readItems room (bound + 1) text = .ok ([value], rest) := by
  have hclosing : skipGap (gap ++ ']' :: rest) = ']' :: rest := skipGap_closing hgap rfl
  simp [readItems, hvalue, hclosing]

theorem readItems_more (hvalue : readValue room bound text = .ok (value, ',' :: (gap ++ others)))
    (hothers : skipGap (gap ++ others) = others)
    (hitems : readItems room bound others = .ok (items, rest)) :
    readItems room (bound + 1) text = .ok (value :: items, rest) := by
  have hcomma : skipGap (',' :: (gap ++ others)) = ',' :: (gap ++ others) :=
    skipGap_of_head (by simp [isGap])
  simp [readItems, hvalue, hcomma, hothers, hitems]

theorem readFields_last {named : List Char} (hname : readName named = .ok (key, text))
    (hvalue : readValue room bound text = .ok (value, gap ++ '\x7d' :: rest)) (hgap : Gap gap) :
    readFields room (bound + 1) named = .ok ([(key, value)], rest) := by
  have hclosing : skipGap (gap ++ '\x7d' :: rest) = '\x7d' :: rest := skipGap_closing hgap rfl
  simp [readFields, hname, hvalue, hclosing]

theorem readFields_more {named : List Char} (hname : readName named = .ok (key, text))
    (hvalue : readValue room bound text = .ok (value, ',' :: (gap ++ others)))
    (hothers : skipGap (gap ++ others) = others)
    (hfields : readFields room bound others = .ok (fields, rest)) :
    readFields room (bound + 1) named = .ok ((key, value) :: fields, rest) := by
  have hcomma : skipGap (',' :: (gap ++ others)) = ',' :: (gap ++ others) :=
    skipGap_of_head (by simp [isGap])
  simp [readFields, hname, hvalue, hcomma, hothers, hfields]

end Members

/-! ## Values -/

mutual

/-- A value is read from the front of a text that goes on with nothing of its own. Every token
takes at least one character, so the bound suffices. -/
theorem readValue_of_spells {room : Nat} {value : Json} {text : List Char} :
    Spells room value text → ∀ (bound : Nat) (rest : List Char), EndsNumber rest →
      2 * text.length ≤ bound + 1 → readValue room (bound + 1) (text ++ rest) = .ok (value, rest)
  | .null, bound, rest, _, _ => by simp [readValue, readScalar, words, List.isPrefixOf]
  | .true, bound, rest, _, _ => by simp [readValue, readScalar, words, List.isPrefixOf]
  | .false, bound, rest, _, _ => by simp [readValue, readScalar, words, List.isPrefixOf]
  | .int hdigits, bound, rest, hrest, _ =>
      readValue_of_readNumber? (readNumber?_intText _ hdigits hrest)
  | .float h hfinite, bound, rest, hrest, _ =>
      readValue_of_readNumber? (Binary64.readNumber?_shortestText _ h hfinite hrest)
  | .str, bound, rest, _, _ => by simp [readValue, quote, readString_escaped]
  | .emptyArray, bound, rest, _, _ => by
      have hclosing : skipGap (']' :: rest) = ']' :: rest := skipGap_of_head (by simp [isGap])
      simp [readValue, hclosing]
  | .emptyObject, bound, rest, _, _ => by
      have hclosing : skipGap ('\x7d' :: rest) = '\x7d' :: rest :=
        skipGap_of_head (by simp [isGap])
      simp [readValue, hclosing]
  | .array hgap hitems, bound, rest, _, hbound => by
      -- the brackets are two characters, which leave a step for the container and one to spare
      simp only [List.length_cons, List.length_append, List.length_nil] at hbound
      have hread := readItems_of_spells hitems (bound - 1) rest (by omega)
      have hopened := hitems.startsValue.skipGap_gap hgap (']' :: rest)
      obtain ⟨bound, rfl⟩ : ∃ less, bound = less + 1 := ⟨bound - 1, by omega⟩
      simpa using readValue_arr hopened (hitems.startsValue.append _) hread
  | .object hgap hkeys hfields, bound, rest, _, hbound => by
      simp only [List.length_cons, List.length_append, List.length_nil] at hbound
      have hread := readFields_of_spells hfields (bound - 1) rest (by omega)
      have hopened := hfields.startsValue.skipGap_gap hgap ('\x7d' :: rest)
      have hquote := hfields.head?_append ('\x7d' :: rest)
      obtain ⟨bound, rfl⟩ : ∃ less, bound = less + 1 := ⟨bound - 1, by omega⟩
      simpa using readValue_obj hopened hquote hkeys hread

theorem readItems_of_spells {room : Nat} {items : List Json} {text : List Char} :
    SpellsItems room items text → ∀ (bound : Nat) (rest : List Char),
      2 * text.length ≤ bound → readItems room (bound + 1) (text ++ ']' :: rest) = .ok (items, rest)
  | @SpellsItems.last _ _ gap _ hitem hgap, bound, rest, hbound => by
      rw [List.length_append] at hbound
      have hclosing : EndsNumber (gap ++ ']' :: rest) :=
        EndsNumber.gap_append hgap (endsNumber_cons (by decide) (by decide))
      -- no spelling is empty, so there is a step for the value
      have hlength := hitem.startsValue.length_pos
      have hread := readValue_of_spells hitem (bound - 1) (gap ++ ']' :: rest) hclosing (by omega)
      obtain ⟨bound, rfl⟩ : ∃ less, bound = less + 1 := ⟨bound - 1, by omega⟩
      simpa using readItems_last hread hgap
  | @SpellsItems.more _ _ _ gap _ others hitem hgap hitems, bound, rest, hbound => by
      simp only [List.length_cons, List.length_append] at hbound
      have hcomma : EndsNumber (',' :: (gap ++ (others ++ ']' :: rest))) :=
        endsNumber_cons (by decide) (by decide)
      have hread := readValue_of_spells hitem (bound - 1) _ hcomma (by omega)
      have hreadItems := readItems_of_spells hitems (bound - 1) rest (by omega)
      have hothers := hitems.startsValue.skipGap_gap hgap (']' :: rest)
      obtain ⟨bound, rfl⟩ : ∃ less, bound = less + 1 := ⟨bound - 1, by omega⟩
      simpa using readItems_more hread hothers hreadItems

theorem readFields_of_spells {room : Nat} {fields : List (String × Json)} {text : List Char} :
    SpellsFields room fields text → ∀ (bound : Nat) (rest : List Char),
      2 * text.length ≤ bound →
        readFields room (bound + 1) (text ++ '\x7d' :: rest) = .ok (fields, rest)
  | @SpellsFields.last _ key _ gap _ hvalue hgap, bound, rest, hbound => by
      simp only [List.length_cons, List.length_append] at hbound
      have hclosing : EndsNumber (gap ++ '\x7d' :: rest) :=
        EndsNumber.gap_append hgap (endsNumber_cons (by decide) (by decide))
      have hname := readName_quote key hvalue.startsValue (gap ++ '\x7d' :: rest)
      have hread := readValue_of_spells hvalue (bound - 1) (gap ++ '\x7d' :: rest) hclosing
        (by omega)
      obtain ⟨bound, rfl⟩ : ∃ less, bound = less + 1 := ⟨bound - 1, by omega⟩
      simpa using readFields_last hname hread hgap
  | @SpellsFields.more _ key _ _ gap _ others hvalue hgap hfields, bound, rest, hbound => by
      simp only [List.length_cons, List.length_append] at hbound
      have hcomma : EndsNumber (',' :: (gap ++ (others ++ '\x7d' :: rest))) :=
        endsNumber_cons (by decide) (by decide)
      have hname :=
        readName_quote key hvalue.startsValue (',' :: (gap ++ (others ++ '\x7d' :: rest)))
      have hread := readValue_of_spells hvalue (bound - 1) _ hcomma (by omega)
      have hreadFields := readFields_of_spells hfields (bound - 1) rest (by omega)
      have hothers := hfields.startsValue.skipGap_gap hgap ('\x7d' :: rest)
      obtain ⟨bound, rfl⟩ : ∃ less, bound = less + 1 := ⟨bound - 1, by omega⟩
      simpa using readFields_more hname hread hothers hreadFields

end

/-! ## Whole texts -/

/-- A value is read from a text that spells it. -/
theorem parse_of_spells (h : Spells maxNesting value text) :
    parse (String.ofList text) = .ok value := by
  have hread := readValue_of_spells h (2 * text.length) [] endsNumber_nil (by omega)
  have hopened := h.startsValue.skipGap []
  rw [List.append_nil] at hread hopened
  -- no value starts with the mark that a text must not start with
  have hmark : text.head? ≠ some '\uFEFF' := by
    rcases h.startsValue with ⟨c, others, rfl, -, -, hmark⟩
    simpa using hmark
  have hwhole : readWholeText text = .ok value := by
    rw [readWholeText, if_neg hmark, hopened]
    simp [hread, skipGap]
  rw [parse, String.toList_ofList, hwhole]

variable {layout : Layout}

/-- A regular value is read from what the writer makes of it. -/
theorem parse_render (hblank : layout.IsBlank)
    (h : Regular Binary64.Writable maxNesting value) : parse (value.render layout) = .ok value :=
  parse_of_spells (spells_renderAt hblank h 0)

/-- A regular value is read from a file with what the writer makes of it. -/
theorem parse_unifyLineEnds_render (hblank : layout.IsBlank)
    (h : Regular Binary64.Writable maxNesting value) :
    parse (String.ofList (Text.unifyLineEnds (value.render layout).toList)) = .ok value := by
  rcases (spells_renderAt hblank h 0).unifyLineEnds with ⟨unified, hunified, hsame⟩
  have hwhole := hsame []
  rw [List.append_nil, Text.unifyLineEnds_nil, List.append_nil] at hwhole
  rw [render, String.toList_ofList, hwhole]
  exact parse_of_spells hunified

end Json
end Typings
