import Mathlib.Tactic.SplitIfs
import Typings.Json.Writer
import Typings.Proofs.Number.Digits

/-!
# Numbers read from their parts

A number in a text is a sign, a whole part, a fraction and an exponent. Each part is read as far
as it goes when what follows does not belong to it.

* `EndsNumber`: what may follow a number;
* `readUnsigned?`: a number behind its sign, by the parts that were read;
* `readNumber?_intText`: a whole number is read from its text.
-/

namespace Typings

open Json (digitsValue isDigit readNumber? readWhole? readFraction readExponent?)

variable {digits rest : List Char} {negative : Bool}

/-! ## Parts of a number -/

/-- Nothing that follows a number belongs to it. -/
def EndsNumber (rest : List Char) : Prop :=
  ∀ c ∈ rest.head?, isDigit c = false ∧ c ≠ '.' ∧ c ≠ 'e' ∧ c ≠ 'E'

theorem takeWhile_isDigit_append (h : ∀ c ∈ digits, isDigit c = true)
    (hrest : ∀ c ∈ rest.head?, isDigit c = false) :
    (digits ++ rest).takeWhile isDigit = digits := by
  rw [List.takeWhile_append_of_pos h]
  rcases rest with _ | ⟨c, rest⟩
  · simp
  · simp [hrest c rfl]

theorem dropWhile_isDigit_append (h : ∀ c ∈ digits, isDigit c = true)
    (hrest : ∀ c ∈ rest.head?, isDigit c = false) :
    (digits ++ rest).dropWhile isDigit = rest := by
  rw [List.dropWhile_append_of_pos h]
  rcases rest with _ | ⟨c, rest⟩
  · simp
  · simp [hrest c rfl]

/-- Digits without a leading zero are read as a whole part. -/
theorem readWhole?_append (hne : digits ≠ []) (h : ∀ c ∈ digits, isDigit c = true)
    (hhead : digits.head? ≠ some '0') (hrest : ∀ c ∈ rest.head?, isDigit c = false) :
    readWhole? (digits ++ rest) = some (digits, rest) := by
  rcases digits with _ | ⟨first, others⟩
  · exact absurd rfl hne
  · have hfirst : first ≠ '0' := by simpa using hhead
    have hothers : ∀ c ∈ others, isDigit c = true := fun c hc =>
      h c (List.mem_cons_of_mem first hc)
    rw [List.cons_append, readWhole?, if_pos (h first List.mem_cons_self),
      takeWhile_isDigit_append hothers hrest, dropWhile_isDigit_append hothers hrest]
    intro heq
    exact hfirst heq

theorem readFraction_append (hne : digits ≠ []) (h : ∀ c ∈ digits, isDigit c = true)
    (hrest : ∀ c ∈ rest.head?, isDigit c = false) :
    readFraction ('.' :: (digits ++ rest)) = (digits, rest) := by
  rw [readFraction, takeWhile_isDigit_append h hrest, dropWhile_isDigit_append h hrest, if_neg]
  simpa [List.isEmpty_iff] using hne

theorem readFraction_of_head (hrest : ∀ c ∈ rest.head?, c ≠ '.') :
    readFraction rest = ([], rest) := by
  rcases rest with _ | ⟨c, rest⟩
  · rfl
  · rw [readFraction]
    intro tail heq
    exact hrest c rfl (List.cons.inj heq).1

theorem readExponent?_of_head (hrest : ∀ c ∈ rest.head?, c ≠ 'e' ∧ c ≠ 'E') :
    readExponent? rest = none := by
  rcases rest with _ | ⟨c, rest⟩
  · rfl
  · have hmark : ¬ (c = 'e' ∨ c = 'E') := by
      rintro (heq | heq)
      · exact (hrest c rfl).1 heq
      · exact (hrest c rfl).2 heq
    simp only [readExponent?, if_neg hmark]

/-- What ends a number goes on with no digit. -/
theorem EndsNumber.head?_not_digit (h : EndsNumber rest) : ∀ c ∈ rest.head?, isDigit c = false :=
  fun c hc => (h c hc).1

theorem EndsNumber.readFraction_eq_nil (h : EndsNumber rest) : readFraction rest = ([], rest) :=
  readFraction_of_head fun c hc => (h c hc).2.1

theorem EndsNumber.readExponent?_eq_none (h : EndsNumber rest) : readExponent? rest = none :=
  readExponent?_of_head fun c hc => (h c hc).2.2

/-- An exponent that is written is read. -/
theorem readExponent?_exponentText (exponent : Int)
    (hrest : ∀ c ∈ rest.head?, isDigit c = false) :
    readExponent? ('e' :: (Binary64.exponentText exponent ++ rest)) = some (exponent, rest) := by
  obtain ⟨padded, hpadded, hne, hall, hvalue⟩ : ∃ padded,
      padded = (if (decimalDigits exponent.natAbs).length < 2 then
        '0' :: decimalDigits exponent.natAbs else decimalDigits exponent.natAbs) ∧
      padded ≠ [] ∧ (∀ c ∈ padded, isDigit c = true) ∧ digitsValue padded = exponent.natAbs := by
    refine ⟨_, rfl, ?_⟩
    split_ifs
    · refine ⟨List.cons_ne_nil _ _, ?_, ?_⟩
      · intro c hc
        rcases List.mem_cons.1 hc with rfl | hc
        · decide
        · exact isDigit_of_mem_decimalDigits hc
      · rw [← List.singleton_append, digitsValue_append, digitsValue_decimalDigits]
        simp [digitsValue]
    · exact ⟨decimalDigits_ne_nil _, fun c hc => isDigit_of_mem_decimalDigits hc,
        digitsValue_decimalDigits _⟩
  have hread := takeWhile_isDigit_append hall hrest
  have hleft := dropWhile_isDigit_append hall hrest
  have hempty : padded.isEmpty = false := by simpa [List.isEmpty_iff] using hne
  simp only [Binary64.exponentText, ← hpadded]
  by_cases hsign : exponent < 0
  · have hread' : -(digitsValue padded : Int) = exponent := by
      rw [hvalue]
      omega
    simp [readExponent?, hsign, hread, hleft, hempty, hread']
  · have hread' : (digitsValue padded : Int) = exponent := by
      rw [hvalue]
      omega
    simp [readExponent?, hsign, hread, hleft, hempty, hread']

/-! ## Numbers from their parts -/

/-- Read a number whose sign is already taken. -/
def readUnsigned? (negative : Bool) (unsigned : List Char) :
    Option (Except Json.Excess Json × List Char) :=
  match readWhole? unsigned with
  | none => none
  | some (whole, rest) =>
      let (fraction, rest) := readFraction rest
      match readExponent? rest with
      | some (exponent, rest) =>
          some (.ok (.float (.ofDecimal negative (digitsValue (whole ++ fraction))
            (exponent - fraction.length))), rest)
      | none =>
          if fraction.isEmpty then some (Json.wholeNumber negative whole, rest)
          else
            some (.ok (.float (.ofDecimal negative (digitsValue (whole ++ fraction))
              (-(fraction.length : Int)))), rest)

theorem readNumber?_of_minus (unsigned : List Char) :
    readNumber? ('-' :: unsigned) = readUnsigned? true unsigned := by
  unfold readNumber? readUnsigned?
  rfl

theorem readNumber?_of_head {unsigned : List Char} (hhead : unsigned.head? ≠ some '-') :
    readNumber? unsigned = readUnsigned? false unsigned := by
  unfold readNumber? readUnsigned?
  split
  next negative others heq =>
  split at heq
  · exact absurd rfl hhead
  · cases heq
    rfl

/-- A number without a sign starts with a digit. -/
theorem exists_digit_of_readUnsigned? {unsigned : List Char}
    {read : Except Json.Excess Json × List Char} (h : readUnsigned? negative unsigned = some read) :
    ∃ c others, unsigned = c :: others ∧ isDigit c = true := by
  rcases unsigned with _ | ⟨c, others⟩
  · cases h
  · refine ⟨c, others, rfl, ?_⟩
    refine Decidable.byContradiction fun hdigit => ?_
    have hwhole : readWhole? (c :: others) = none := by
      rw [readWhole?, if_neg hdigit]
      rintro rfl
      exact hdigit (by decide)
    rw [readUnsigned?, hwhole] at h
    cases h

theorem readNumber?_signText {unsigned : List Char} {read : Except Json.Excess Json × List Char}
    (h : readUnsigned? negative unsigned = some read) :
    readNumber? (Binary64.signText negative ++ unsigned) = some read := by
  rcases exists_digit_of_readUnsigned? h with ⟨c, others, rfl, hdigit⟩
  rw [← h]
  cases negative
  · refine readNumber?_of_head fun hminus => ?_
    cases hminus
    exact absurd hdigit (by decide)
  · exact readNumber?_of_minus (c :: others)

/-- A number starts with a digit, or with a sign and a digit. -/
theorem exists_digit_of_readNumber? {text : List Char}
    {read : Except Json.Excess Json × List Char} (h : readNumber? text = some read) :
    ∃ c others, isDigit c = true ∧ (text = c :: others ∨ text = '-' :: c :: others) := by
  by_cases hminus : text.head? = some '-'
  · rcases text with _ | ⟨first, unsigned⟩
    · cases hminus
    · cases hminus
      rw [readNumber?_of_minus] at h
      rcases exists_digit_of_readUnsigned? h with ⟨c, others, rfl, hdigit⟩
      exact ⟨c, others, hdigit, Or.inr rfl⟩
  · rw [readNumber?_of_head hminus] at h
    rcases exists_digit_of_readUnsigned? h with ⟨c, others, rfl, hdigit⟩
    exact ⟨c, others, hdigit, Or.inl rfl⟩

section Parts

variable (negative)
variable {unsigned whole fraction behindWhole behindFraction : List Char} {exponent : Int}

theorem readUnsigned?_of_exponent (hwhole : readWhole? unsigned = some (whole, behindWhole))
    (hfraction : readFraction behindWhole = (fraction, behindFraction))
    (hexponent : readExponent? behindFraction = some (exponent, rest)) :
    readUnsigned? negative unsigned =
      some (.ok (.float (.ofDecimal negative (digitsValue (whole ++ fraction))
        (exponent - fraction.length))), rest) := by
  simp only [readUnsigned?, hwhole, hfraction, hexponent]

theorem readUnsigned?_of_fraction (hwhole : readWhole? unsigned = some (whole, behindWhole))
    (hfraction : readFraction behindWhole = (fraction, rest)) (hne : fraction ≠ [])
    (hexponent : readExponent? rest = none) :
    readUnsigned? negative unsigned =
      some (.ok (.float (.ofDecimal negative (digitsValue (whole ++ fraction))
        (-(fraction.length : Int)))), rest) := by
  have hempty : ¬ fraction.isEmpty = true := by simpa [List.isEmpty_iff] using hne
  simp only [readUnsigned?, hwhole, hfraction, hexponent, if_neg hempty]

theorem readUnsigned?_of_whole (hwhole : readWhole? unsigned = some (whole, behindWhole))
    (hfraction : readFraction behindWhole = ([], rest)) (hexponent : readExponent? rest = none) :
    readUnsigned? negative unsigned = some (Json.wholeNumber negative whole, rest) := by
  simp only [readUnsigned?, hwhole, hfraction, hexponent, List.isEmpty_nil, if_true]

end Parts

/-- A whole number that is written is read, as long as it does not have too many digits. -/
theorem readNumber?_intText (value : Int)
    (hdigits : (decimalDigits value.natAbs).length ≤ Json.maxDigits) (hrest : EndsNumber rest) :
    readNumber? (Json.intText value ++ rest) = some (.ok (.int value), rest) := by
  have hall : ∀ c ∈ decimalDigits value.natAbs, isDigit c = true := fun c hc =>
    isDigit_of_mem_decimalDigits hc
  have hne := decimalDigits_ne_nil value.natAbs
  have hfraction := hrest.readFraction_eq_nil
  have hexponent := hrest.readExponent?_eq_none
  have hwhole : readWhole? (decimalDigits value.natAbs ++ rest) =
      some (decimalDigits value.natAbs, rest) := by
    rcases Nat.eq_zero_or_pos value.natAbs with hzero | hpositive
    · rw [hzero]
      rfl
    · exact readWhole?_append hne hall (head?_decimalDigits hpositive) hrest.head?_not_digit
  rw [Json.intText, List.append_assoc]
  refine readNumber?_signText ?_
  rw [readUnsigned?_of_whole _ hwhole hfraction hexponent, Json.wholeNumber, if_neg (by omega),
    digitsValue_decimalDigits]
  by_cases hsign : value < 0
  · have habs : -(value.natAbs : Int) = value := by omega
    simp only [hsign, decide_true, if_true, habs]
  · have habs : (value.natAbs : Int) = value := by omega
    simp only [hsign, decide_false, Bool.false_eq_true, if_false, habs]

end Typings
