import Mathlib.Data.List.DropRight
import Typings.Proofs.Number.Parts
import Typings.Proofs.Number.Rounding

/-!
# Shortest texts read back

The shortest text of a finite number is read as the number itself.

* `decimalUnits_shortestDigits`: the digits stand for the number;
* `readUnsigned?_layout`: digits that are laid out are read, whatever their layout;
* `readNumber?_shortestText`: the number is read from its shortest text;
* `not_mem_shortestText`: the text holds no CR.
-/

namespace Typings

open Json (digitsValue isDigit readNumber? readWhole? readFraction readExponent?)

variable {digits rest : List Char} {negative : Bool}

namespace Binary64

/-! ## Shortest digits -/

theorem decimalUnits_of_digitsOfLength? {units count digits : Nat} {exponent : Int}
    (h : digitsOfLength? units count = some (digits, exponent)) :
    decimalUnits digits exponent = units := by
  rcases Option.map_eq_some_iff.1 h with ⟨found, hfind, heq⟩
  cases heq
  simpa using List.find?_some hfind

/-- The exact expansion reads back. -/
theorem decimalUnits_expansion {units : Nat} (h : Representable units) :
    decimalUnits (units * Nat.pow 5 1074) (-1074) = units := by
  obtain ⟨size, hsize⟩ : ∃ size, size = 1074 := ⟨_, rfl⟩
  have hexponent : (-1074 : Int) = ((0 : Nat) : Int) - size := by omega
  rw [hexponent, decimalUnits_sub]
  unfold one
  rw [← hsize]
  have hten : units * Nat.pow 5 size * 10 ^ 0 * Nat.pow 2 size = units * 10 ^ size := by
    rw [Nat.pow_eq, Nat.pow_eq, Nat.pow_zero, Nat.mul_one, Nat.mul_assoc, ← Nat.mul_pow]
  rw [hten, roundUnits_mul_self h (Nat.pow_pos (by decide))]

theorem decimalUnits_shortestDigits {units : Nat} (h : Representable units) :
    decimalUnits (shortestDigits units).1 (shortestDigits units).2 = units := by
  rw [shortestDigits]
  cases hfound : (List.range 17).findSome? fun count => digitsOfLength? units (count + 1) with
  | none => exact decimalUnits_expansion h
  | some found =>
      rcases found with ⟨digits, exponent⟩
      rcases List.exists_of_findSome?_eq_some hfound with ⟨count, _, hdigits⟩
      exact decimalUnits_of_digitsOfLength? hdigits

/-! ## Layouts -/

section Layout

variable {point : Int}

/-- Digits in exponent form. -/
theorem readUnsigned?_mantissa (hne : digits ≠ []) (h : ∀ c ∈ digits, isDigit c = true)
    (hhead : digits.head? ≠ some '0') (hrest : EndsNumber rest)
    (hpoint : point < -3 ∨ 16 < point) :
    readUnsigned? negative (layout digits point ++ rest) =
      some (.ok (.float (.ofDecimal negative (digitsValue digits) (point - digits.length))),
        rest) := by
  have hexponent := readExponent?_exponentText (point - 1) hrest.head?_not_digit
  -- one digit is written without a point, more digits with the point behind the first
  rcases digits with _ | ⟨first, _ | ⟨second, others⟩⟩
  · exact absurd rfl hne
  · have hwhole : readWhole? ([first] ++ 'e' :: (exponentText (point - 1) ++ rest)) =
        some ([first], 'e' :: (exponentText (point - 1) ++ rest)) :=
      readWhole?_append hne h hhead (by simp [isDigit])
    have hfraction : readFraction ('e' :: (exponentText (point - 1) ++ rest)) =
        ([], 'e' :: (exponentText (point - 1) ++ rest)) :=
      readFraction_of_head (by simp)
    have hread := readUnsigned?_of_exponent negative hwhole hfraction hexponent
    simp only [layout, if_pos hpoint, List.cons_append, List.nil_append] at hread ⊢
    simpa using hread
  · have hothers : ∀ c ∈ second :: others, isDigit c = true := fun c hc =>
      h c (List.mem_cons_of_mem first hc)
    have hwhole : readWhole? ([first] ++
        '.' :: ((second :: others) ++ 'e' :: (exponentText (point - 1) ++ rest))) =
        some ([first], '.' :: ((second :: others) ++ 'e' :: (exponentText (point - 1) ++ rest))) :=
      readWhole?_append (List.cons_ne_nil _ _) (by simpa using h first List.mem_cons_self)
        (by simpa using hhead) (by simp [isDigit])
    have hfraction :
        readFraction ('.' :: ((second :: others) ++ 'e' :: (exponentText (point - 1) ++ rest))) =
          (second :: others, 'e' :: (exponentText (point - 1) ++ rest)) :=
      readFraction_append (List.cons_ne_nil second others) hothers (by simp [isDigit])
    have hread := readUnsigned?_of_exponent negative hwhole hfraction hexponent
    have hsame : point - 1 - ((second :: others).length : Int) =
        point - ((first :: second :: others).length : Int) := by
      simp only [List.length_cons]
      omega
    rw [hsame] at hread
    simp only [layout, if_pos hpoint, List.cons_append, List.nil_append, List.append_assoc]
      at hread ⊢
    exact hread

/-- Digits behind the point. -/
theorem readUnsigned?_fraction (hne : digits ≠ []) (h : ∀ c ∈ digits, isDigit c = true)
    (hrest : EndsNumber rest) (hlower : ¬ (point < -3 ∨ 16 < point)) (hpoint : point ≤ 0) :
    readUnsigned? negative (layout digits point ++ rest) =
      some (.ok (.float (.ofDecimal negative (digitsValue digits) (point - digits.length))),
        rest) := by
  set zeros := List.replicate point.natAbs '0' with hzeros
  have hall : ∀ c ∈ zeros ++ digits, isDigit c = true := by
    intro c hc
    rcases List.mem_append.1 hc with hc | hc
    · rw [List.eq_of_mem_replicate hc]
      decide
    · exact h c hc
  have hfraction := readFraction_append (List.append_ne_nil_of_right_ne_nil zeros hne) hall
    hrest.head?_not_digit
  have hexponent := hrest.readExponent?_eq_none
  have hwhole : readWhole? ('0' :: '.' :: (zeros ++ digits ++ rest)) =
      some (['0'], '.' :: (zeros ++ digits ++ rest)) := rfl
  have hread := readUnsigned?_of_fraction negative hwhole hfraction
    (List.append_ne_nil_of_right_ne_nil zeros hne) hexponent
  have hvalue : digitsValue (['0'] ++ (zeros ++ digits)) = digitsValue digits := by
    rw [digitsValue_append, digitsValue_append, hzeros, digitsValue_replicate_zero]
    simp [digitsValue]
  have hsame : -((zeros ++ digits).length : Int) = point - digits.length := by
    rw [List.length_append, hzeros, List.length_replicate]
    omega
  -- the zeros in front change no value, and the exponent counts them
  rw [hvalue, hsame] at hread
  simp only [layout, if_neg hlower, if_pos hpoint, List.cons_append, ← hzeros]
  exact hread

/-- Digits on both sides of the point. -/
theorem readUnsigned?_split (h : ∀ c ∈ digits, isDigit c = true)
    (hhead : digits.head? ≠ some '0') (hrest : EndsNumber rest)
    (hlower : ¬ (point < -3 ∨ 16 < point)) (hpoint : 0 < point) (hless : point < digits.length) :
    readUnsigned? negative (layout digits point ++ rest) =
      some (.ok (.float (.ofDecimal negative (digitsValue digits) (point - digits.length))),
        rest) := by
  set whole := digits.take point.toNat with hwholeDef
  set fraction := digits.drop point.toNat with hfractionDef
  have hjoin : whole ++ fraction = digits := List.take_append_drop _ _
  have hlength : fraction.length = digits.length - point.toNat := List.length_drop
  have hfractionNe : fraction ≠ [] := List.ne_nil_of_length_pos (by omega)
  have hwholeNe : whole ≠ [] := by
    refine List.ne_nil_of_length_pos ?_
    rw [hwholeDef, List.length_take]
    omega
  have hwholeHead : whole.head? ≠ some '0' := by
    rw [hwholeDef, List.head?_take, if_neg (by omega)]
    exact hhead
  have hwhole : readWhole? (whole ++ '.' :: (fraction ++ rest)) =
      some (whole, '.' :: (fraction ++ rest)) :=
    readWhole?_append hwholeNe (fun c hc => h c (List.mem_of_mem_take hc)) hwholeHead
      (by simp [isDigit])
  have hfraction : readFraction ('.' :: (fraction ++ rest)) = (fraction, rest) :=
    readFraction_append hfractionNe (fun c hc => h c (List.mem_of_mem_drop hc))
      hrest.head?_not_digit
  have hexponent := hrest.readExponent?_eq_none
  have hread := readUnsigned?_of_fraction negative hwhole hfraction hfractionNe hexponent
  -- here no zeros are added, on neither side of the point
  have hsame : -(fraction.length : Int) = point - digits.length := by omega
  have hzeros : point.toNat - digits.length = 0 := by omega
  have hempty : ¬ fraction.isEmpty = true := by simpa [List.isEmpty_iff] using hfractionNe
  rw [hjoin, hsame] at hread
  simp only [layout, if_neg hlower, if_neg (show ¬ point ≤ 0 by omega), ← hwholeDef,
    ← hfractionDef, hzeros, List.replicate_zero, List.append_nil, if_neg hempty,
    List.append_assoc, List.cons_append]
  exact hread

/-- Digits before the point, with zeros up to it. -/
theorem readUnsigned?_whole (hne : digits ≠ []) (h : ∀ c ∈ digits, isDigit c = true)
    (hhead : digits.head? ≠ some '0') (hrest : EndsNumber rest)
    (hlower : ¬ (point < -3 ∨ 16 < point)) (hpoint : 0 < point) (hle : digits.length ≤ point) :
    readUnsigned? negative (layout digits point ++ rest) =
      some (.ok (.float (.ofDecimal negative
        (digitsValue digits * 10 ^ (point.toNat - digits.length + 1)) (-1))), rest) := by
  set zeros := List.replicate (point.toNat - digits.length) '0' with hzeros
  have hall : ∀ c ∈ digits ++ zeros, isDigit c = true := by
    intro c hc
    rcases List.mem_append.1 hc with hc | hc
    · exact h c hc
    · rw [List.eq_of_mem_replicate hc]
      decide
  have hwholeHead : (digits ++ zeros).head? ≠ some '0' := by
    rwa [List.head?_append_of_ne_nil _ hne]
  have hwhole : readWhole? ((digits ++ zeros) ++ '.' :: (['0'] ++ rest)) =
      some (digits ++ zeros, '.' :: (['0'] ++ rest)) :=
    readWhole?_append (List.append_ne_nil_of_left_ne_nil hne zeros) hall hwholeHead
      (by simp [isDigit])
  have hfraction : readFraction ('.' :: (['0'] ++ rest)) = (['0'], rest) :=
    readFraction_append (List.cons_ne_nil '0' []) (by simp [isDigit]) hrest.head?_not_digit
  have hexponent := hrest.readExponent?_eq_none
  have hread := readUnsigned?_of_fraction negative hwhole hfraction
    (List.cons_ne_nil '0' []) hexponent
  have hvalue : digitsValue (digits ++ zeros ++ ['0']) =
      digitsValue digits * 10 ^ (point.toNat - digits.length + 1) := by
    have hlast : ['0'] = List.replicate 1 '0' := rfl
    rw [hlast, hzeros, List.append_assoc, List.replicate_append_replicate, digitsValue_append,
      digitsValue_replicate_zero, List.length_replicate, Nat.add_zero]
  rw [hvalue] at hread
  simp only [layout, if_neg hlower, if_neg (show ¬ point ≤ 0 by omega), ← hzeros,
    List.take_of_length_le (show digits.length ≤ point.toNat by omega),
    List.drop_of_length_le (show digits.length ≤ point.toNat by omega), List.isEmpty_nil, if_true,
    List.append_assoc, List.cons_append] at hread ⊢
  simpa using hread

/-- Digits that are laid out are read as a fraction of the same value. -/
theorem readUnsigned?_layout (negative : Bool) (point : Int) (hne : digits ≠ [])
    (h : ∀ c ∈ digits, isDigit c = true) (hhead : digits.head? ≠ some '0') (hrest : EndsNumber rest) :
    ∃ value exponent,
      readUnsigned? negative (layout digits point ++ rest) =
        some (.ok (.float (.ofDecimal negative value exponent)), rest) ∧
      decimalUnits value exponent = decimalUnits (digitsValue digits) (point - digits.length) := by
  -- only the last layout adds digits, and with them a smaller exponent
  by_cases hlower : point < -3 ∨ 16 < point
  · exact ⟨_, _, readUnsigned?_mantissa hne h hhead hrest hlower, rfl⟩
  by_cases hpoint : point ≤ 0
  · exact ⟨_, _, readUnsigned?_fraction hne h hrest hlower hpoint, rfl⟩
  by_cases hless : point < digits.length
  · exact ⟨_, _, readUnsigned?_split h hhead hrest hlower (by omega) hless, rfl⟩
  · refine ⟨_, _, readUnsigned?_whole hne h hhead hrest hlower (by omega) (by omega), ?_⟩
    have hexponent : (-1 : Int) = point - digits.length -
        ((point.toNat - digits.length + 1 : Nat) : Int) := by omega
    rw [hexponent, decimalUnits_scale]

end Layout

/-! ## Texts -/

theorem trimZeros_append (digits : List Char) :
    ∃ count, digits = trimZeros digits ++ List.replicate count '0' := by
  refine ⟨(digits.rtakeWhile (· == '0')).length, ?_⟩
  have hzeros : digits.rtakeWhile (· == '0') =
      List.replicate (digits.rtakeWhile (· == '0')).length '0' :=
    List.eq_replicate_of_mem fun c hc => by simpa using List.mem_rtakeWhile_imp hc
  rw [← hzeros]
  exact List.rdropWhile_append_rtakeWhile.symm

theorem magnitudeText_of_shortestDigits {units value : Nat} {exponent : Int} (hpositive : 0 < units)
    (h : shortestDigits units = (value, exponent)) :
    magnitudeText units =
      layout (trimZeros (decimalDigits value)) ((decimalDigits value).length + exponent) := by
  rw [magnitudeText, if_neg hpositive.ne', h]

/-- The text of a positive magnitude is read as a fraction that stands for it. -/
theorem readUnsigned?_magnitudeText (negative : Bool) {units : Nat} (h : Representable units)
    (hpositive : 0 < units) (hrest : EndsNumber rest) :
    ∃ value exponent,
      readUnsigned? negative (magnitudeText units ++ rest) =
        some (.ok (.float (.ofDecimal negative value exponent)), rest) ∧
      decimalUnits value exponent = units := by
  rcases hshortest : shortestDigits units with ⟨digits, exponent⟩
  have hunits : decimalUnits digits exponent = units := by
    have hread := decimalUnits_shortestDigits h
    rwa [hshortest] at hread
  -- digits that stand for a positive magnitude are not all zero, so trimming leaves some
  have hdigits : 0 < digits := by
    rcases Nat.eq_zero_or_pos digits with rfl | hdigits
    · rw [decimalUnits_zero] at hunits
      omega
    · exact hdigits
  rcases trimZeros_append (decimalDigits digits) with ⟨count, hwritten⟩
  set trimmed := trimZeros (decimalDigits digits) with htrimmed
  have hne : trimmed ≠ [] := by
    intro hnil
    have hvalue := digitsValue_decimalDigits digits
    rw [hwritten, hnil, List.nil_append, digitsValue_replicate_zero] at hvalue
    omega
  have hall : ∀ c ∈ trimmed, isDigit c = true := by
    intro c hc
    have hmem : c ∈ decimalDigits digits := by
      rw [hwritten]
      exact List.mem_append_left _ hc
    exact isDigit_of_mem_decimalDigits hmem
  have hhead : trimmed.head? ≠ some '0' := by
    have hfirst := head?_decimalDigits hdigits
    rwa [hwritten, List.head?_append_of_ne_nil _ hne] at hfirst
  rcases readUnsigned?_layout negative ((decimalDigits digits).length + exponent) hne hall hhead
    hrest with ⟨value, shifted, hread, hsame⟩
  refine ⟨value, shifted, ?_, ?_⟩
  · rw [magnitudeText_of_shortestDigits hpositive hshortest]
    exact hread
  · -- the zeros that were trimmed are made up for by the exponent
    have hvalue : digitsValue trimmed * 10 ^ count = digits := by
      calc digitsValue trimmed * 10 ^ count
          = digitsValue (trimmed ++ List.replicate count '0') := by
            rw [digitsValue_append, digitsValue_replicate_zero, List.length_replicate,
              Nat.add_zero]
        _ = digitsValue (decimalDigits digits) := by rw [← hwritten]
        _ = digits := digitsValue_decimalDigits digits
    have hexponent : ((decimalDigits digits).length : Int) + exponent - trimmed.length =
        exponent + count := by
      rw [hwritten, List.length_append, List.length_replicate]
      omega
    calc decimalUnits value shifted
        = decimalUnits (digitsValue trimmed) (exponent + count) := by rw [hsame, hexponent]
      _ = decimalUnits (digitsValue trimmed * 10 ^ count) (exponent + count - count) :=
          (decimalUnits_scale _ count _).symm
      _ = decimalUnits digits exponent := by rw [hvalue, Int.add_sub_cancel]
      _ = units := hunits

/-- A finite number is read from its shortest text. -/
theorem readNumber?_shortestText (negative : Bool) {units : Nat} (h : Representable units)
    (hfinite : units < overflow) (hrest : EndsNumber rest) :
    readNumber? ((finite negative units h).shortestText.toList ++ rest) =
      some (.ok (.float (.finite negative units h)), rest) := by
  rw [shortestText, String.toList_ofList, List.append_assoc]
  rcases Nat.eq_zero_or_pos units with rfl | hpositive
  · have hfraction : readFraction ('.' :: (['0'] ++ rest)) = (['0'], rest) :=
      readFraction_append (List.cons_ne_nil '0' []) (by simp [isDigit]) hrest.head?_not_digit
    have hexponent := hrest.readExponent?_eq_none
    have hwhole : readWhole? (magnitudeText 0 ++ rest) = some (['0'], '.' :: (['0'] ++ rest)) :=
      rfl
    refine readNumber?_signText ?_
    have hvalue : digitsValue (['0'] ++ ['0']) = 0 := rfl
    rw [readUnsigned?_of_fraction negative hwhole hfraction (List.cons_ne_nil '0' []) hexponent,
      hvalue, ofDecimal_zero]
  · rcases readUnsigned?_magnitudeText negative h hpositive hrest with
      ⟨value, exponent, hread, hunits⟩
    rw [ofDecimal_of_decimalUnits h hunits hpositive hfinite] at hread
    exact readNumber?_signText hread

/-! ## Characters -/

theorem not_mem_of_digits (h : ∀ c ∈ digits, isDigit c = true) :
    '\r' ∉ digits := by
  intro hmem
  exact absurd (h _ hmem) (by decide)

theorem not_mem_decimalDigits (value : Nat) : '\r' ∉ decimalDigits value :=
  not_mem_of_digits fun _ hc => isDigit_of_mem_decimalDigits hc

theorem not_mem_signText (negative : Bool) : '\r' ∉ signText negative := by
  cases negative <;> decide

theorem not_mem_exponentText (exponent : Int) : '\r' ∉ exponentText exponent := by
  have hdigits := not_mem_decimalDigits exponent.natAbs
  rw [exponentText]
  split_ifs <;> simp [hdigits]

theorem not_mem_layout {digits : List Char} {point : Int} (h : '\r' ∉ digits) :
    '\r' ∉ layout digits point := by
  have hexponent := not_mem_exponentText (point - 1)
  have htake : '\r' ∉ digits.take point.toNat := fun hmem => h (List.mem_of_mem_take hmem)
  have hdrop : '\r' ∉ digits.drop point.toNat := fun hmem => h (List.mem_of_mem_drop hmem)
  have hfraction : '\r' ∉ if (digits.drop point.toNat).isEmpty then ['0'] else
      digits.drop point.toNat := by
    split_ifs
    · decide
    · exact hdrop
  unfold layout
  split_ifs
  · rcases digits with _ | ⟨first, _ | ⟨second, others⟩⟩
    · simp [hexponent]
    · simpa [hexponent] using h
    · simpa [hexponent] using h
  · simp [h]
  · simpa [htake] using hfraction

/-- No character of a written number ends a line. -/
theorem not_mem_shortestText (number : Binary64) : '\r' ∉ number.shortestText.toList := by
  rcases number with ⟨negative, units, h⟩ | negative | _
  · have hmagnitude : '\r' ∉ magnitudeText units := by
      rcases Nat.eq_zero_or_pos units with rfl | hpositive
      · decide
      · rcases hshortest : shortestDigits units with ⟨digits, exponent⟩
        rw [magnitudeText_of_shortestDigits hpositive hshortest]
        refine not_mem_layout fun hmem => ?_
        rcases trimZeros_append (decimalDigits digits) with ⟨count, hwritten⟩
        refine not_mem_decimalDigits digits ?_
        rw [hwritten]
        exact List.mem_append_left _ hmem
    simp [shortestText, not_mem_signText, hmagnitude]
  · cases negative <;> decide
  · decide

end Binary64
end Typings
