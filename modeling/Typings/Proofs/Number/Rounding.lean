import Mathlib.Tactic.Ring
import Typings.Proofs.Number.Digits

/-!
# Rounding to 53 bits

A decimal fraction is read as the nearest number that 53 bits can hold. This module shows what
does not depend on how the fraction is written, and where numbers stop being read exactly.

* `roundUnits_mul`: fractions that are equal are rounded alike;
* `roundUnits_mul_self`: numbers of 53 bits are rounded to themselves;
* `scaleByPowerOfTwo_finite`: products with powers of two are exact as far as they are finite;
* `decimalUnits_scale`: zeros at the end of the digits do not count;
* `ofDecimal_of_decimalUnits`: digits that stand for a finite number are read as this number.
-/

namespace Typings

variable {numerator denominator factor units : Nat}

/-! ## Equal fractions -/

theorem divNearest_mul (hfactor : 0 < factor) (numerator denominator : Nat) :
    divNearest (numerator * factor) (denominator * factor) = divNearest numerator denominator := by
  have hless : 2 * (numerator % denominator * factor) < denominator * factor ↔
      2 * (numerator % denominator) < denominator := by
    rw [← Nat.mul_assoc]
    exact Nat.mul_lt_mul_right hfactor
  have hmore : denominator * factor < 2 * (numerator % denominator * factor) ↔
      denominator < 2 * (numerator % denominator) := by
    rw [← Nat.mul_assoc]
    exact Nat.mul_lt_mul_right hfactor
  simp only [divNearest, Nat.mul_div_mul_right _ _ hfactor, Nat.mul_mod_mul_right, hless, hmore]

/-- Equal fractions are rounded alike. -/
theorem roundUnits_mul (hfactor : 0 < factor) (numerator denominator : Nat) :
    roundUnits (numerator * factor) (denominator * factor) = roundUnits numerator denominator := by
  simp only [roundUnits, Nat.mul_div_mul_right _ _ hfactor]
  rw [Nat.mul_right_comm, divNearest_mul hfactor]

theorem divNearest_of_dvd (hdenominator : 0 < denominator) (hdvd : denominator ∣ numerator) :
    divNearest numerator denominator = numerator / denominator := by
  simp [divNearest, Nat.mod_eq_zero_of_dvd hdvd, hdenominator]

/-! ## Exact numbers -/

theorem spacing_pos (units : Nat) : 0 < spacing units :=
  Nat.pow_pos (by decide)

/-- The neighbours of a number of 53 bits are as far away as its last bit counts. -/
theorem spacing_dvd (h : Representable units) : spacing units ∣ units := by
  rcases h with ⟨significand, exponent, hle, rfl⟩
  simp only [Nat.pow_eq] at hle ⊢
  rcases Nat.eq_zero_or_pos significand with rfl | hpositive
  · simp
  rcases Nat.lt_or_eq_of_le hle with hlt | rfl
  · -- the significand has at most 53 bits
    have hlog : (significand * 2 ^ exponent).log2 < 53 + exponent := by
      rw [Nat.log2_lt (Nat.mul_ne_zero hpositive.ne' (Nat.pow_pos (by decide)).ne'), Nat.pow_add]
      exact Nat.mul_lt_mul_of_pos_right hlt (Nat.pow_pos (by decide))
    refine Nat.dvd_trans (Nat.pow_dvd_pow 2 ?_) (Nat.dvd_mul_left _ _)
    omega
  · rw [← Nat.pow_add, spacing, Nat.log2_two_pow, Nat.pow_eq]
    exact Nat.pow_dvd_pow 2 (by omega)

/-- Numbers of 53 bits are rounded to themselves. -/
theorem roundUnits_mul_self (h : Representable units) (hfactor : 0 < factor) :
    roundUnits (units * factor) factor = units := by
  have hone := roundUnits_mul hfactor units 1
  rw [Nat.one_mul] at hone
  rw [hone, roundUnits, Nat.div_one, Nat.one_mul,
    divNearest_of_dvd (spacing_pos units) (spacing_dvd h)]
  exact Nat.div_mul_cancel (spacing_dvd h)

theorem Representable.mul_pow (h : Representable units) (power : Nat) :
    Representable (units * 2 ^ power) := by
  rcases h with ⟨significand, exponent, hle, rfl⟩
  refine ⟨significand, exponent + power, hle, ?_⟩
  simp only [Nat.pow_eq, Nat.pow_add, Nat.mul_assoc]

/-- A finite number times a power of two is exact, or too large for a finite number. -/
theorem Binary64.scaleByPowerOfTwo_finite (negative : Bool) (h : Representable units)
    (power : Nat) :
    (Binary64.finite negative units h).scaleByPowerOfTwo power =
      if units * 2 ^ power < Binary64.overflow then
        .finite negative (units * 2 ^ power) (h.mul_pow power)
      else .infinite negative := by
  have hexact : roundUnits (units * 2 ^ power) 1 = units * 2 ^ power := by
    have hself := roundUnits_mul_self (h.mul_pow power) Nat.one_pos
    rwa [Nat.mul_one] at hself
  simp only [scaleByPowerOfTwo, ofUnits, Nat.pow_eq, hexact]

/-! ## Very small and very large fractions -/

theorem roundUnits_eq_zero (h : 2 * numerator < denominator) :
    roundUnits numerator denominator = 0 := by
  have hzero : numerator / denominator = 0 := Nat.div_eq_of_lt (by omega)
  have hspacing : spacing 0 = 1 := by decide
  rw [roundUnits, hzero, hspacing, Nat.mul_one, Nat.mul_one, divNearest,
    Nat.mod_eq_of_lt (by omega), if_pos h, hzero]

theorem div_le_divNearest (numerator denominator : Nat) :
    numerator / denominator ≤ divNearest numerator denominator := by
  simp only [divNearest]
  split
  · exact Nat.le_refl _
  · split <;> omega

/-- A fraction from a power of two on is rounded to no less than this power. -/
theorem pow_le_roundUnits {exponent : Nat} (hdenominator : 0 < denominator)
    (h : denominator * 2 ^ exponent ≤ numerator) :
    2 ^ exponent ≤ roundUnits numerator denominator := by
  set quotient := numerator / denominator with hquotient
  have hle : 2 ^ exponent ≤ quotient := by
    rw [hquotient, Nat.le_div_iff_mul_le hdenominator, Nat.mul_comm]
    exact h
  have hne : quotient ≠ 0 := (Nat.lt_of_lt_of_le (Nat.pow_pos (by decide)) hle).ne'
  have hlog : exponent ≤ quotient.log2 := (Nat.le_log2 hne).2 hle
  -- the leading bit of the quotient is a multiple of the spacing
  obtain ⟨leading, hleading⟩ : spacing quotient ∣ 2 ^ quotient.log2 :=
    Nat.pow_dvd_pow 2 (Nat.sub_le _ _)
  have hdiv : leading ≤ divNearest numerator (denominator * spacing quotient) := by
    refine Nat.le_trans ?_ (div_le_divNearest _ _)
    rw [← Nat.div_div_eq_div_mul, ← hquotient, Nat.le_div_iff_mul_le (spacing_pos _),
      Nat.mul_comm, ← hleading]
    exact Nat.log2_self_le hne
  calc 2 ^ exponent
      ≤ 2 ^ quotient.log2 := Nat.pow_le_pow_right (by decide) hlog
    _ = leading * spacing quotient := by rw [hleading, Nat.mul_comm]
    _ ≤ roundUnits numerator denominator := Nat.mul_le_mul_right _ hdiv

namespace Binary64

variable {digits : Nat} {exponent : Int}

/-! ## Decimal fractions -/

/-- A decimal fraction with its exponent split into a part up and a part down. -/
theorem decimalUnits_sub (digits up down : Nat) :
    decimalUnits digits ((up : Int) - down) =
      roundUnits (digits * 10 ^ up * one) (10 ^ down) := by
  rw [decimalUnits]
  have hpositive : ∀ size : Nat, 0 < 10 ^ size := fun size => Nat.pow_pos (by decide)
  by_cases hle : down ≤ up
  · have hup : ((up : Int) - down).toNat = up - down := by omega
    have hscaled : digits * 10 ^ up * one = digits * 10 ^ (up - down) * one * 10 ^ down := by
      rw [← Nat.sub_add_cancel hle, Nat.pow_add, Nat.add_sub_cancel]
      ring
    have hsame := roundUnits_mul (hpositive down) (digits * 10 ^ (up - down) * one) 1
    rw [Nat.one_mul] at hsame
    rw [if_pos (by omega), hup, Nat.pow_eq, hscaled, hsame]
  · have hdown : ((up : Int) - down).natAbs = down - up := by omega
    have hpow : (10 : Nat) ^ down = 10 ^ (down - up) * 10 ^ up := by
      rw [← Nat.pow_add, Nat.sub_add_cancel (by omega)]
    rw [if_neg (by omega), hdown, Nat.pow_eq, hpow, Nat.mul_right_comm digits,
      roundUnits_mul (hpositive up)]

/-- Zeros at the end of the digits are made up for by the exponent. -/
theorem decimalUnits_scale (digits count : Nat) (exponent : Int) :
    decimalUnits (digits * 10 ^ count) (exponent - count) = decimalUnits digits exponent := by
  have hexponent : exponent = (exponent.toNat : Int) - (-exponent).toNat := by omega
  have hlower : exponent - count =
      (exponent.toNat : Int) - ((-exponent).toNat + count : Nat) := by omega
  rw [hlower, decimalUnits_sub]
  conv_rhs => rw [hexponent, decimalUnits_sub]
  -- numerator and denominator both get the factor that the zeros are worth
  have hnumerator : digits * 10 ^ count * 10 ^ exponent.toNat * one =
      digits * 10 ^ exponent.toNat * one * 10 ^ count := by ring
  rw [hnumerator, Nat.pow_add, roundUnits_mul (Nat.pow_pos (by decide))]

theorem decimalUnits_zero (exponent : Int) : decimalUnits 0 exponent = 0 := by
  have hexponent : exponent = (exponent.toNat : Int) - (-exponent).toNat := by omega
  rw [hexponent, decimalUnits_sub, Nat.zero_mul, Nat.zero_mul]
  exact roundUnits_eq_zero (Nat.pow_pos (by decide))

/-- Below `10 ^ -330` everything is rounded to zero. -/
theorem decimalUnits_of_small (h : (decimalDigits digits).length + exponent < -330) :
    decimalUnits digits exponent = 0 := by
  set count := (decimalDigits digits).length
  have hexponent : exponent = ((0 : Nat) : Int) - (-exponent).toNat := by omega
  rw [hexponent, decimalUnits_sub, Nat.pow_zero, Nat.mul_one]
  refine roundUnits_eq_zero ?_
  -- the bound is a variable, since powers of this size must not be computed
  obtain ⟨bound, hbound, hone⟩ : ∃ bound, bound = 331 ∧ 2 * one ≤ 10 ^ bound :=
    ⟨331, rfl, by decide +kernel⟩
  calc 2 * (digits * one)
      = digits * (2 * one) := by ring
    _ < 10 ^ count * (2 * one) :=
        Nat.mul_lt_mul_of_pos_right (lt_pow_length_decimalDigits digits) (by decide +kernel)
    _ ≤ 10 ^ count * 10 ^ bound := Nat.mul_le_mul_left _ hone
    _ = 10 ^ (count + bound) := (Nat.pow_add 10 count bound).symm
    _ ≤ 10 ^ (-exponent).toNat := Nat.pow_le_pow_right (by decide) (by omega)

/-- From `10 ^ 311` on everything overflows. -/
theorem overflow_le_decimalUnits (hpositive : 0 < digits)
    (h : 311 < (decimalDigits digits).length + exponent) :
    overflow ≤ decimalUnits digits exponent := by
  have hlow := pow_length_decimalDigits_le hpositive
  set count := (decimalDigits digits).length
  have hexponent : exponent = (exponent.toNat : Int) - (-exponent).toNat := by omega
  rw [hexponent, decimalUnits_sub]
  obtain ⟨size, bound, hsize, hbound, hone⟩ :
      ∃ size bound, size = 2098 ∧ bound = 311 ∧ 2 ^ size ≤ 10 ^ bound * one :=
    ⟨2098, 311, rfl, rfl, by decide +kernel⟩
  unfold overflow
  rw [← hsize, Nat.pow_eq]
  refine pow_le_roundUnits (Nat.pow_pos (by decide)) ?_
  calc 10 ^ (-exponent).toNat * 2 ^ size
      ≤ 10 ^ (-exponent).toNat * (10 ^ bound * one) := Nat.mul_le_mul_left _ hone
    _ = 10 ^ ((-exponent).toNat + bound) * one := by rw [Nat.pow_add, Nat.mul_assoc]
    _ ≤ 10 ^ (count - 1 + exponent.toNat) * one :=
        Nat.mul_le_mul_right _ (Nat.pow_le_pow_right (by decide) (by omega))
    _ = 10 ^ (count - 1) * 10 ^ exponent.toNat * one := by rw [Nat.pow_add]
    _ ≤ digits * 10 ^ exponent.toNat * one :=
        Nat.mul_le_mul_right _ (Nat.mul_le_mul_right _ hlow)

/-! ## Reading -/

theorem ofDecimal_zero (negative : Bool) (exponent : Int) :
    ofDecimal negative 0 exponent = .finite negative 0 representable_zero := by
  rw [ofDecimal]
  exact if_pos (Or.inl rfl)

/-- Digits that stand for a finite number other than zero are read as this number: the cases that
spare large powers of ten do not apply. -/
theorem ofDecimal_of_decimalUnits {negative : Bool} {units : Nat} (h : Representable units)
    (hunits : decimalUnits digits exponent = units) (hpositive : 0 < units)
    (hfinite : units < overflow) :
    ofDecimal negative digits exponent = .finite negative units h := by
  have hdigits : 0 < digits := by
    rcases Nat.eq_zero_or_pos digits with rfl | hdigits
    · rw [decimalUnits_zero] at hunits
      omega
    · exact hdigits
  have hsmall : ¬ (decimalDigits digits).length + exponent < -330 := by
    intro hsmall
    rw [decimalUnits_of_small hsmall] at hunits
    omega
  have hlarge : ¬ 311 < (decimalDigits digits).length + exponent := by
    intro hlarge
    have hle := overflow_le_decimalUnits hdigits hlarge
    omega
  have hneither : ¬ (digits = 0 ∨ (decimalDigits digits).length + exponent < -330) := by omega
  simp only [decimalDigits] at hneither hlarge
  subst hunits
  -- what is left is the exact computation, with the exponent of either sign
  rw [ofDecimal]
  simp only [if_neg hneither, if_neg hlarge]
  rw [decimalUnits] at hfinite
  simp only [decimalUnits]
  split_ifs with hexponent
  · rw [if_pos hexponent] at hfinite
    rw [ofUnits, if_pos hfinite]
  · rw [if_neg hexponent] at hfinite
    rw [ofUnits, if_pos hfinite]

end Binary64
end Typings
