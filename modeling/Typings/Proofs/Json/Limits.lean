import Typings.Proofs.Json.Reading

/-!
# What is read is regular

Reading keeps the limits that it checks: a value that was read is regular, so it can be written
and read again.

* `Json.regular_of_readNumber?`: numbers that were read;
* `Json.ReadsRegular`: what holds of values, items and fields that are read within a bound;
* `Json.regular_of_parse`: a value that a text holds is regular.
-/

namespace Typings

/-! ## Numbers -/

namespace Binary64

-- the powers are too large to be computed
attribute [local irreducible] overflow one

theorem overflow_pos : 0 < overflow := by
  obtain ⟨size, hsize⟩ : ∃ size, size = 2098 := ⟨_, rfl⟩
  unfold overflow
  rw [← hsize]
  exact Nat.pow_pos (by decide)

theorem inRange_finite {negative : Bool} {units : Nat} (h : Representable units) :
    (finite negative units h).InRange ↔ units < overflow := Iff.rfl

theorem inRange_infinite (negative : Bool) : (infinite negative).InRange := True.intro

theorem inRange_ofUnits (negative : Bool) (numerator denominator : Nat) :
    (ofUnits negative numerator denominator).InRange := by
  rw [ofUnits]
  by_cases hfinite : roundUnits numerator denominator < overflow
  · rw [if_pos hfinite, inRange_finite]
    exact hfinite
  · rw [if_neg hfinite]
    exact inRange_infinite negative

theorem inRange_ofDecimal (negative : Bool) (digits : Nat) (exponent : Int) :
    (ofDecimal negative digits exponent).InRange := by
  unfold ofDecimal
  dsimp only
  by_cases hzero : digits = 0 ∨ ((Nat.toDigits 10 digits).length : Int) + exponent < -330
  · rw [if_pos hzero, inRange_finite]
    exact overflow_pos
  rw [if_neg hzero]
  by_cases hlarge : 311 < ((Nat.toDigits 10 digits).length : Int) + exponent
  · rw [if_pos hlarge]
    exact inRange_infinite negative
  rw [if_neg hlarge]
  by_cases hwhole : 0 ≤ exponent
  · rw [if_pos hwhole]
    exact inRange_ofUnits _ _ _
  · rw [if_neg hwhole]
    exact inRange_ofUnits _ _ _

end Binary64

/-! ## Tables -/

namespace Table

variable {α : Type} {key : String} {value : α} {pair : String × α} {table pairs : Table α}

theorem mem_put (h : pair ∈ Table.put key value table) : pair ∈ table ∨ pair = (key, value) := by
  induction table with
  | nil => exact Or.inr (by simpa [put] using h)
  | cons first table ih =>
      rcases first with ⟨other, old⟩
      rw [put] at h
      split_ifs at h with hkey
      · rcases List.mem_cons.1 h with rfl | h
        · exact Or.inr (by rw [hkey])
        · exact Or.inl (List.mem_cons_of_mem _ h)
      · rcases List.mem_cons.1 h with rfl | h
        · exact Or.inl List.mem_cons_self
        · exact (ih h).imp_left (List.mem_cons_of_mem _)

theorem nodup_keys_put (h : (keys table).Nodup) : (keys (put key value table)).Nodup := by
  rw [keys_put]
  split_ifs with hmem
  · exact h
  · refine List.nodup_append.2 ⟨h, by simp, ?_⟩
    rintro other hother _ hnew rfl
    rw [List.mem_singleton.1 hnew] at hother
    exact hmem hother

theorem nodup_keys_ofPairs (pairs : Table α) : (keys (ofPairs pairs)).Nodup := by
  have hfold : ∀ (pairs table : Table α), (keys table).Nodup →
      (keys (pairs.foldl (fun table pair => table.put pair.1 pair.2) table)).Nodup := by
    intro pairs
    induction pairs with
    | nil => exact fun table h => h
    | cons pair pairs ih => exact fun table h => ih _ (nodup_keys_put h)
  exact hfold pairs [] List.nodup_nil

theorem mem_of_mem_ofPairs (h : pair ∈ ofPairs pairs) : pair ∈ pairs := by
  have hfold : ∀ (pairs table : Table α),
      pair ∈ pairs.foldl (fun table pair => table.put pair.1 pair.2) table →
        pair ∈ table ∨ pair ∈ pairs := by
    intro pairs
    induction pairs with
    | nil => exact fun table h => Or.inl h
    | cons first pairs ih =>
        intro table h
        rcases ih _ h with h | h
        · rcases mem_put h with h | rfl
          · exact Or.inl h
          · exact Or.inr List.mem_cons_self
        · exact Or.inr (List.mem_cons_of_mem _ h)
  exact (hfold pairs [] h).resolve_left List.not_mem_nil

end Table

namespace Json

variable {room bound : Nat} {text rest : List Char} {value : Json}

/-! ## Scalars -/

theorem readWhole?_digits {whole : List Char} (h : readWhole? text = some (whole, rest)) :
    whole ≠ [] ∧ ∀ c ∈ whole, isDigit c = true := by
  unfold readWhole? at h
  split at h
  · cases h
    exact ⟨List.cons_ne_nil _ _, List.forall_mem_singleton.2 rfl⟩
  · split_ifs at h with hdigit
    cases h
    refine ⟨List.cons_ne_nil _ _, List.forall_mem_cons.2 ⟨hdigit, ?_⟩⟩
    exact fun c hc => List.mem_takeWhile_imp hc
  · cases h

theorem regular_of_wholeNumber {negative : Bool} {digits : List Char} (hne : digits ≠ [])
    (hdigits : ∀ c ∈ digits, isDigit c = true) (h : wholeNumber negative digits = .ok value) :
    Regular Binary64.InRange room value := by
  rw [wholeNumber] at h
  split at h
  · cases h
  next hcount =>
    have hlength := length_decimalDigits_digitsValue_le hne hdigits
    have hvalue : (decimalDigits (digitsValue digits)).length ≤ maxDigits := by omega
    cases h
    cases negative <;> simpa [Regular] using hvalue

/-- A number that was read is within the limits. -/
theorem regular_of_readUnsigned? {negative : Bool}
    (h : readUnsigned? negative text = some (.ok value, rest)) :
    Regular Binary64.InRange room value := by
  rw [readUnsigned?] at h
  split at h
  · cases h
  next whole behind hwhole =>
    -- only a number with neither fraction nor exponent is whole
    rcases readWhole?_digits hwhole with ⟨hne, hdigits⟩
    rcases hfraction : readFraction behind with ⟨fraction, behindFraction⟩
    simp only [hfraction] at h
    split at h
    · cases h
      exact Binary64.inRange_ofDecimal _ _ _
    · split at h
      · simp only [Option.some.injEq, Prod.mk.injEq] at h
        exact regular_of_wholeNumber hne hdigits h.1
      · cases h
        exact Binary64.inRange_ofDecimal _ _ _

theorem regular_of_readNumber? (h : readNumber? text = some (.ok value, rest)) :
    Regular Binary64.InRange room value := by
  by_cases hminus : text.head? = some '-'
  · rcases text with _ | ⟨first, unsigned⟩
    · cases hminus
    · cases hminus
      rw [readNumber?_of_minus] at h
      exact regular_of_readUnsigned? h
  · rw [readNumber?_of_head hminus] at h
    exact regular_of_readUnsigned? h

theorem regular_of_readScalar (h : readScalar text = .ok (value, rest)) :
    Regular Binary64.InRange room value := by
  have hwords : ∀ word ∈ words, Regular Binary64.InRange room word.2 := by
    simp [words, Regular, Binary64.InRange]
  rw [readScalar] at h
  split at h
  next word meaning hfind =>
    cases h
    exact hwords _ (List.mem_of_find?_eq_some hfind)
  next =>
    split at h
    next hread =>
      cases h
      exact regular_of_readNumber? hread
    · cases h
    · cases h

/-! ## Values -/

theorem bind_eq_ok {α β : Type} {first : Except Failure α} {next : α → Except Failure β}
    {result : β} (h : (first >>= next) = .ok result) :
    ∃ value, first = .ok value ∧ next value = .ok result := by
  cases first with
  | error failure => cases h
  | ok value => exact ⟨value, rfl, h⟩

/-- What is read within a bound is within the limits. -/
structure ReadsRegular (bound : Nat) : Prop where
  value : ∀ {room text value rest}, readValue room bound text = .ok (value, rest) →
    Regular Binary64.InRange room value
  items : ∀ {room text items rest}, readItems room bound text = .ok (items, rest) →
    ∀ item ∈ items, Regular Binary64.InRange room item
  fields : ∀ {room text fields rest}, readFields room bound text = .ok (fields, rest) →
    ∀ field ∈ fields, Regular Binary64.InRange room field.2

theorem readsRegular_zero : ReadsRegular 0 where
  value h := by simp [readValue] at h
  items h := by simp [readItems] at h
  fields h := by simp [readFields] at h

theorem ReadsRegular.value_succ (hbound : ReadsRegular bound)
    (h : readValue room (bound + 1) text = .ok (value, rest)) :
    Regular Binary64.InRange room value := by
  unfold readValue at h
  split at h
  · rcases bind_eq_ok h with ⟨⟨read, behind⟩, -, hresult⟩
    cases hresult
    trivial
  · split at h
    · cases h
    next hroom =>
      split at h
      · -- an empty array needs room as well
        cases h
        exact regular_arr.2 ⟨Nat.pos_of_ne_zero hroom, by simp⟩
      · rcases bind_eq_ok h with ⟨⟨items, behind⟩, hitems, hresult⟩
        cases hresult
        exact regular_arr.2 ⟨Nat.pos_of_ne_zero hroom, hbound.items hitems⟩
  · split at h
    · cases h
    next hroom =>
      split at h
      · cases h
        exact regular_obj.2 ⟨Nat.pos_of_ne_zero hroom, by simp [Table.keys], by simp⟩
      · rcases bind_eq_ok h with ⟨⟨fields, behind⟩, hfields, hresult⟩
        cases hresult
        -- of fields with one name the table keeps a single one
        refine regular_obj.2 ⟨Nat.pos_of_ne_zero hroom, Table.nodup_keys_ofPairs _, ?_⟩
        intro field hmem
        exact hbound.fields hfields field (Table.mem_of_mem_ofPairs hmem)
  · exact regular_of_readScalar h

theorem ReadsRegular.items_succ (hbound : ReadsRegular bound) {items : List Json}
    (h : readItems room (bound + 1) text = .ok (items, rest)) :
    ∀ item ∈ items, Regular Binary64.InRange room item := by
  rw [readItems] at h
  rcases bind_eq_ok h with ⟨⟨item, behind⟩, hitem, hmore⟩
  have hregular := hbound.value hitem
  dsimp only at hmore
  split at hmore
  · cases hmore
    simpa using hregular
  · rcases bind_eq_ok hmore with ⟨⟨others, later⟩, hothers, hresult⟩
    cases hresult
    exact List.forall_mem_cons.2 ⟨hregular, hbound.items hothers⟩
  · cases hmore

theorem ReadsRegular.fields_succ (hbound : ReadsRegular bound) {fields : List (String × Json)}
    (h : readFields room (bound + 1) text = .ok (fields, rest)) :
    ∀ field ∈ fields, Regular Binary64.InRange room field.2 := by
  rw [readFields] at h
  rcases bind_eq_ok h with ⟨⟨name, behind⟩, -, hnamed⟩
  rcases bind_eq_ok hnamed with ⟨⟨value, behindValue⟩, hvalue, hmore⟩
  have hregular := hbound.value hvalue
  dsimp only at hmore
  split at hmore
  · cases hmore
    exact List.forall_mem_cons.2 ⟨hregular, by simp⟩
  · rcases bind_eq_ok hmore with ⟨⟨others, later⟩, hothers, hresult⟩
    cases hresult
    exact List.forall_mem_cons.2 ⟨hregular, hbound.fields hothers⟩
  · cases hmore

/-- Whatever the bound, what is read is within the limits. -/
theorem readsRegular (bound : Nat) : ReadsRegular bound := by
  induction bound with
  | zero => exact readsRegular_zero
  | succ bound ih => exact ⟨ih.value_succ, ih.items_succ, ih.fields_succ⟩

/-- A value that a text holds is regular. -/
theorem regular_of_parse {text : String} (h : parse text = .ok value) :
    Regular Binary64.InRange maxNesting value := by
  have hwhole : readWholeText text.toList = .ok value := by
    rw [parse] at h
    split at h
    next hread =>
      cases h
      exact hread
    · cases h
    · cases h
  rw [readWholeText] at hwhole
  split_ifs at hwhole with hmark
  · cases hwhole
  · rcases bind_eq_ok hwhole with ⟨⟨read, behind⟩, hread, hresult⟩
    dsimp only at hresult
    split at hresult
    · cases hresult
      exact (readsRegular _).value hread
    · cases hresult

end Json
end Typings
