import Mathlib.Algebra.Group.Nat.Defs
import Typings.Json.Reader
import Typings.Number.Decimal

/-!
# Decimal digits

Writing a whole number in decimal digits and reading the digits back are inverse to each other.

* `digitsValue_append`: the value of digits in a row;
* `digitsValue_decimalDigits`: digits that are written read back;
* `length_decimalDigits_digitsValue_le`: digits that were read are not written longer.
-/

namespace Typings

open Json (digitsValue isDigit)

variable {c : Char} {digits : List Char} {value : Nat}

/-! ## Values of digits -/

theorem digitsValue_eq_ofDigitChars (digits : List Char) :
    digitsValue digits = Nat.ofDigitChars 10 digits 0 := by
  simp only [digitsValue, Nat.ofDigitChars, Nat.mul_comm]

@[simp] theorem digitsValue_nil : digitsValue [] = 0 := rfl

theorem digitsValue_append (front back : List Char) :
    digitsValue (front ++ back) = digitsValue front * 10 ^ back.length + digitsValue back := by
  simp only [digitsValue_eq_ofDigitChars]
  rw [Nat.ofDigitChars_append, Nat.ofDigitChars_eq_ofDigitChars_zero, Nat.mul_comm]

theorem digitsValue_replicate_zero (count : Nat) :
    digitsValue (List.replicate count '0') = 0 := by
  simp [digitsValue_eq_ofDigitChars]

theorem digitsValue_decimalDigits (value : Nat) : digitsValue (decimalDigits value) = value := by
  rw [digitsValue_eq_ofDigitChars, decimalDigits, Nat.ofDigitChars_ten_toDigits]

theorem digitsValue_lt (h : ∀ c ∈ digits, isDigit c = true) :
    digitsValue digits < 10 ^ digits.length := by
  induction digits with
  | nil => simp
  | cons c rest ih =>
      have hrest := ih fun d hd => h d (List.mem_cons_of_mem c hd)
      have hc : digitsValue [c] ≤ 9 := by
        have hdigit := h c List.mem_cons_self
        simp only [isDigit, Bool.and_eq_true, decide_eq_true_eq] at hdigit
        have hle : c.toNat ≤ '9'.toNat := hdigit.2
        simp only [digitsValue, List.foldl_cons, List.foldl_nil]
        simp only [Char.reduceToNat] at hle ⊢
        omega
      rw [← List.singleton_append, digitsValue_append, List.length_append, List.length_singleton,
        Nat.pow_add, Nat.pow_one]
      calc digitsValue [c] * 10 ^ rest.length + digitsValue rest
          < digitsValue [c] * 10 ^ rest.length + 10 ^ rest.length :=
            Nat.add_lt_add_left hrest _
        _ = (digitsValue [c] + 1) * 10 ^ rest.length := by rw [Nat.add_mul, Nat.one_mul]
        _ ≤ 10 * 10 ^ rest.length := Nat.mul_le_mul_right _ (by omega)

/-! ## Written digits -/

theorem isDigit_of_mem_decimalDigits (hmem : c ∈ decimalDigits value) : isDigit c = true := by
  have hdigit := Nat.isDigit_of_mem_toDigits (by decide) (by decide) hmem
  simpa [Char.isDigit, isDigit, Char.le_def] using hdigit

theorem decimalDigits_ne_nil (value : Nat) : decimalDigits value ≠ [] :=
  Nat.toDigits_ne_nil

theorem length_decimalDigits_le_iff {bound : Nat} (hbound : 0 < bound) :
    (decimalDigits value).length ≤ bound ↔ value < 10 ^ bound :=
  Nat.length_toDigits_le_iff (by decide) hbound

theorem lt_pow_length_decimalDigits (value : Nat) : value < 10 ^ (decimalDigits value).length :=
  (length_decimalDigits_le_iff Nat.length_toDigits_pos).1 Nat.le.refl

theorem pow_length_decimalDigits_le (hpositive : 0 < value) :
    10 ^ ((decimalDigits value).length - 1) ≤ value := by
  by_cases hone : (decimalDigits value).length - 1 = 0
  · rw [hone]
    exact hpositive
  · refine Nat.le_of_not_lt fun hlt => ?_
    have hle := (length_decimalDigits_le_iff (by omega)).2 hlt
    omega

/-- Only the digits of zero start with a zero. -/
theorem head?_decimalDigits (hpositive : 0 < value) : (decimalDigits value).head? ≠ some '0' := by
  intro hhead
  rcases hdigits : decimalDigits value with _ | ⟨first, rest⟩
  · exact decimalDigits_ne_nil value hdigits
  rw [hdigits, List.head?_cons, Option.some.injEq] at hhead
  -- without the leading zero the digits would be too few for their value
  have hvalue : digitsValue rest = value := by
    rw [← digitsValue_decimalDigits value, hdigits, hhead, ← List.singleton_append,
      digitsValue_append]
    simp [digitsValue]
  have hrest : ∀ c ∈ rest, isDigit c = true := by
    intro c hc
    have hmem : c ∈ decimalDigits value := by
      rw [hdigits]
      exact List.mem_cons_of_mem first hc
    exact isDigit_of_mem_decimalDigits hmem
  have hlt := digitsValue_lt hrest
  have hle := pow_length_decimalDigits_le hpositive
  rw [hdigits, List.length_cons, Nat.add_sub_cancel] at hle
  omega

/-- Digits that were read are not written longer. -/
theorem length_decimalDigits_digitsValue_le (hne : digits ≠ [])
    (h : ∀ c ∈ digits, isDigit c = true) :
    (decimalDigits (digitsValue digits)).length ≤ digits.length :=
  (length_decimalDigits_le_iff (List.length_pos_iff.2 hne)).2 (digitsValue_lt h)

end Typings
