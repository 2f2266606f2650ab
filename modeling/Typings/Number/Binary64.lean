/-!
# Binary floating-point numbers

A finite 64-bit number is a whole multiple of the least positive one, 2^-1074. This module holds
the numbers as such multiples:

* `Representable`: the multiples that 53 significant bits can hold;
* `roundUnits`: the representable multiple nearest to a fraction, a tie going to the even
  significand;
* `ofDecimal`: the number nearest to a decimal fraction;
* `scaleByPowerOfTwo`, `times`, `atLeast`, `atMost`, `wholeValue?`: the arithmetic that settings,
  clocks and flags need.
-/

namespace Typings

/-! ## Rounding -/

/-- The whole number nearest to `numerator / denominator`, a tie going to the even one. -/
def divNearest (numerator denominator : Nat) : Nat :=
  let quotient := numerator / denominator
  let remainder := numerator % denominator
  if 2 * remainder < denominator then quotient
  else if denominator < 2 * remainder then quotient + 1
  else quotient + quotient % 2

/-- The distance between neighbouring numbers at `units` times 2^-1074. -/
def spacing (units : Nat) : Nat :=
  Nat.pow 2 (units.log2 - 52)

/-- The multiple of 2^-1074 nearest to `numerator / denominator` units that 53 bits can hold. -/
def roundUnits (numerator denominator : Nat) : Nat :=
  let step := spacing (numerator / denominator)
  divNearest numerator (denominator * step) * step

/-- A multiple of 2^-1074 that a significand of 53 bits can hold. -/
def Representable (units : Nat) : Prop :=
  ∃ significand exponent, significand ≤ Nat.pow 2 53 ∧ units = significand * Nat.pow 2 exponent

theorem representable_zero : Representable 0 :=
  ⟨0, 0, by decide, rfl⟩

theorem divNearest_le {numerator denominator bound : Nat}
    (h : numerator < denominator * bound) : divNearest numerator denominator ≤ bound := by
  have hq : numerator / denominator < bound := Nat.div_lt_of_lt_mul h
  simp only [divNearest]
  have := Nat.mod_two_eq_zero_or_one (numerator / denominator)
  split
  · omega
  · split <;> omega

theorem lt_spacing_mul (units : Nat) : units < spacing units * Nat.pow 2 53 := by
  have hlt : units < Nat.pow 2 (units.log2 + 1) := Nat.lt_log2_self
  refine Nat.lt_of_lt_of_le hlt ?_
  simp only [spacing, Nat.pow_eq]
  rw [← Nat.pow_add]
  exact Nat.pow_le_pow_right (by decide) (by omega)

theorem representable_roundUnits (numerator denominator : Nat) :
    Representable (roundUnits numerator denominator) := by
  refine ⟨divNearest numerator (denominator * spacing (numerator / denominator)),
    (numerator / denominator).log2 - 52, ?_, rfl⟩
  cases denominator with
  | zero =>
      simp only [divNearest, Nat.zero_mul, Nat.div_zero, Nat.pow_eq]
      split
      · omega
      · split <;> omega
  | succ d =>
      apply divNearest_le
      have hdiv : numerator < (d + 1) * (numerator / (d + 1) + 1) := by
        have := Nat.div_add_mod numerator (d + 1)
        have := Nat.mod_lt numerator (show 0 < d + 1 by omega)
        rw [Nat.mul_add]
        omega
      refine Nat.lt_of_lt_of_le hdiv ?_
      rw [Nat.mul_assoc]
      exact Nat.mul_le_mul_left _ (lt_spacing_mul _)

/-! ## Numbers -/

/-- A 64-bit floating-point number; a finite one has the magnitude `units` times 2^-1074. -/
inductive Binary64 where
  | finite (negative : Bool) (units : Nat) (representable : Representable units)
  | infinite (negative : Bool)
  | notANumber
deriving DecidableEq

namespace Binary64

/-- Number of units in one. -/
def one : Nat := Nat.pow 2 1074

/-- The first multiple of 2^-1074 that is too large for a finite number. -/
def overflow : Nat := Nat.pow 2 2098

/-- The number nearest to `numerator / denominator` units, infinite from `overflow` on. -/
def ofUnits (negative : Bool) (numerator denominator : Nat) : Binary64 :=
  if roundUnits numerator denominator < overflow then
    .finite negative (roundUnits numerator denominator) (representable_roundUnits _ _)
  else
    .infinite negative

def zero : Binary64 := .finite false 0 representable_zero

/-- The number nearest to a whole number. -/
def ofInt (value : Int) : Binary64 :=
  ofUnits (value < 0) (value.natAbs * one) 1

/-- The number nearest to `digits * 10 ^ exponent`. The first two cases only spare the powers of
ten that would not fit: past 10^310 every number overflows, below 10^-330 every one is zero. -/
def ofDecimal (negative : Bool) (digits : Nat) (exponent : Int) : Binary64 :=
  let size : Int := (Nat.toDigits 10 digits).length + exponent
  if digits = 0 ∨ size < -330 then .finite negative 0 representable_zero
  else if 311 < size then .infinite negative
  else if 0 ≤ exponent then ofUnits negative (digits * Nat.pow 10 exponent.toNat * one) 1
  else ofUnits negative (digits * one) (Nat.pow 10 exponent.natAbs)

/-- The number multiplied by `2 ^ power`. -/
def scaleByPowerOfTwo (power : Nat) : Binary64 → Binary64
  | .finite negative units _ => ofUnits negative (units * Nat.pow 2 power) 1
  | other => other

/-- The number multiplied by a whole number other than zero. -/
def times (factor : Nat) : Binary64 → Binary64
  | .finite negative units _ => ofUnits negative (units * factor) 1
  | other => other

def isFinite : Binary64 → Bool
  | .finite .. => true
  | _ => false

/-- At least a whole number; nothing holds of an undefined number. -/
def atLeast (bound : Nat) : Binary64 → Bool
  | .finite true units _ => units = 0 && bound = 0
  | .finite false units _ => bound * one ≤ units
  | .infinite negative => !negative
  | .notANumber => false

/-- At most a whole number; nothing holds of an undefined number. -/
def atMost (bound : Nat) : Binary64 → Bool
  | .finite true _ _ => true
  | .finite false units _ => units ≤ bound * one
  | .infinite negative => negative
  | .notANumber => false

/-- The value of a finite number without a fraction. -/
def wholeValue? : Binary64 → Option Int
  | .finite negative units _ =>
      if units % one = 0 then
        some (if negative then -((units / one : Nat) : Int) else ((units / one : Nat) : Int))
      else none
  | _ => none

end Binary64
end Typings
