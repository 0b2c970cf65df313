import Mathlib.Algebra.Order.Field.Power
import Mathlib.Algebra.Order.Round
import Mathlib.Data.Nat.Log
import Mathlib.Data.Rat.Floor
import Mathlib.Tactic.FieldSimp
import Mathlib.Tactic.Linarith
import Mathlib.Tactic.NormNum
import Mathlib.Tactic.Positivity
import Sluice.Decimal.Basic

/-!
# The numbers that decimals stand for

A decimal stands for a rational number. The digits before its point are counted on how the decimal
is written, but they bound the number unless it is zero: a zero has one digit wherever its exponent
puts it. Rounding and equality depend on the number alone.

## Main definitions

* `Decimal.value`: the number that a decimal stands for.
* `roundHalfAway`: a number rounded to a number of digits after the point.

## Main statements

* `Decimal.integerDigits_le_iff`: the digits before the point bound the size of the number.
* `Decimal.value_roundTo`: rounding a decimal rounds the number.
* `Decimal.equal_iff`: decimals are equal when they stand for the same number.
-/

namespace Sluice

/-! ## Digits -/

theorem digitCount_eq (n : Nat) : digitCount n = Nat.log 10 n + 1 := by
  fun_induction digitCount n with
  | case1 n small => rw [Nat.log_of_lt small]
  | case2 n large ih => rw [ih, Nat.log_of_one_lt_of_le (by decide) (Nat.le_of_not_lt large)]

theorem digitCount_mono {m n : Nat} (h : m ≤ n) : digitCount m ≤ digitCount n := by
  rw [digitCount_eq, digitCount_eq]
  exact Nat.add_le_add_right (Nat.log_mono_right h) 1

theorem lt_pow_digitCount (n : Nat) : n < 10 ^ digitCount n := by
  rw [digitCount_eq]
  exact Nat.lt_pow_succ_log_self (by decide) n

theorem pow_digitCount_le {n : Nat} (h : n ≠ 0) : 10 ^ (digitCount n - 1) ≤ n := by
  rw [digitCount_eq]
  exact Nat.pow_log_le_self 10 h

/-! ## Rounding numbers -/

/-- The number with `scale` digits after the point that is nearest, the one farther from zero when
two are. -/
def roundHalfAway (x : ℚ) (scale : Int) : ℚ :=
  let size : ℚ := round (|x| * 10 ^ scale) / 10 ^ scale
  if x < 0 then -size else size

theorem roundHalfAway_of_nonneg {x : ℚ} {scale : Int} (h : 0 ≤ x) :
    roundHalfAway x scale = round (x * 10 ^ scale) / 10 ^ scale := by
  rw [roundHalfAway, if_neg (not_lt.mpr h), abs_of_nonneg h]

theorem roundHalfAway_neg {x : ℚ} {scale : Int} (h : 0 ≤ x) :
    roundHalfAway (-x) scale = -roundHalfAway x scale := by
  rcases h.eq_or_lt with rfl | positive
  · simp [roundHalfAway]
  · rw [roundHalfAway, if_pos (neg_neg_of_pos positive), abs_neg, abs_of_nonneg h,
      roundHalfAway_of_nonneg h]

namespace Decimal

/-! ## Numbers -/

/-- The size of the number that a decimal stands for. -/
def size (d : Decimal) : ℚ :=
  d.coefficient * 10 ^ d.exponent

/-- The number that a decimal stands for. -/
def value (d : Decimal) : ℚ :=
  if d.negative then -d.size else d.size

variable {a b d : Decimal} {scale : Int}

theorem size_nonneg : 0 ≤ d.size := by
  unfold size
  positivity

theorem abs_value : |d.value| = d.size := by
  unfold value
  split
  · rw [abs_neg, abs_of_nonneg size_nonneg]
  · exact abs_of_nonneg size_nonneg

theorem size_eq_zero_iff : d.size = 0 ↔ d.coefficient = 0 := by
  have : (10 : ℚ) ^ d.exponent ≠ 0 := by positivity
  simp [size, this]

theorem value_eq_zero_iff : d.value = 0 ↔ d.coefficient = 0 := by
  rw [← abs_eq_zero, abs_value, size_eq_zero_iff]

/-- The digits before the point bound the size of a number that is not zero. -/
theorem integerDigits_le_iff {k : Int} (nonzero : d.coefficient ≠ 0) :
    d.integerDigits ≤ k ↔ d.size < 10 ^ k := by
  have digits : d.integerDigits = digitCount d.coefficient + d.exponent := by
    simp [integerDigits, precision, scale]
  constructor
  · -- a number of so many digits is below the next power of ten
    intro fits
    have below : (d.coefficient : ℚ) < 10 ^ (digitCount d.coefficient : Int) := by
      exact_mod_cast lt_pow_digitCount d.coefficient
    calc d.size < 10 ^ (digitCount d.coefficient : Int) * 10 ^ d.exponent := by
          unfold size
          gcongr
      _ = 10 ^ d.integerDigits := by rw [digits, zpow_add₀ (by norm_num)]
      _ ≤ 10 ^ k := zpow_le_zpow_right₀ (by norm_num) fits
  · -- and reaches the power of its first digit
    intro below
    by_contra exceeds
    have atLeast : (10 : ℚ) ^ ((digitCount d.coefficient : Int) - 1) ≤ d.coefficient := by
      have positive : 0 < digitCount d.coefficient := by rw [digitCount_eq]; omega
      rw [show (digitCount d.coefficient : Int) - 1 = ((digitCount d.coefficient - 1 : Nat) : Int)
        by omega, zpow_natCast]
      exact_mod_cast pow_digitCount_le nonzero
    have reaches : (10 : ℚ) ^ k ≤ d.size := calc
      (10 : ℚ) ^ k ≤ 10 ^ ((digitCount d.coefficient : Int) - 1 + d.exponent) :=
        zpow_le_zpow_right₀ (by norm_num) (by omega)
      _ = 10 ^ ((digitCount d.coefficient : Int) - 1) * 10 ^ d.exponent :=
        zpow_add₀ (by norm_num) _ _
      _ ≤ d.size := by
        unfold size
        gcongr
    exact absurd below (not_lt.mpr reaches)

/-! ## Rounding -/

/-- Dropping digits rounds the quotient. -/
theorem round_div_pow (coefficient drop : Nat) :
    round ((coefficient : ℚ) / 10 ^ drop) = dropHalfUp coefficient drop := by
  unfold dropHalfUp
  split
  · rename_i none
    rw [none, pow_zero, div_one, round_natCast]
  · rename_i some
    obtain ⟨k, rfl⟩ := Nat.exists_eq_succ_of_ne_zero some
    -- half is added before the division, which then rounds down
    have half : (coefficient : ℚ) / 10 ^ (k + 1) + 1 / 2 =
        ((coefficient + 5 * 10 ^ k : Nat) : ℚ) / ((10 ^ (k + 1) : Nat) : ℚ) := by
      push_cast
      field_simp
      ring
    have rounded : round ((coefficient : ℚ) / 10 ^ (k + 1)) =
        ((coefficient + 5 * 10 ^ k) / 10 ^ (k + 1) : Nat) := by
      rw [round_eq, half, Rat.floor_natCast_div_natCast]
      norm_cast
    split
    · -- a coefficient with fewer digits than are dropped is less than half
      rename_i short
      have below : coefficient < 10 ^ k := calc
        coefficient < 10 ^ digitCount coefficient := lt_pow_digitCount coefficient
        _ ≤ 10 ^ k := Nat.pow_le_pow_right (by decide) (Nat.le_of_lt_succ short)
      have less : coefficient + 5 * 10 ^ k < 10 ^ (k + 1) := by
        rw [Nat.pow_succ]
        omega
      rw [rounded, Nat.div_eq_of_lt less]
    · exact rounded

/-- Rounding a decimal rounds its size. -/
theorem size_roundTo : (d.roundTo scale).size = round (d.size * 10 ^ scale) / 10 ^ scale := by
  have shift : d.size * 10 ^ scale = d.coefficient * 10 ^ (d.exponent + scale) := by
    rw [size, zpow_add₀ (by norm_num)]
    ring
  unfold roundTo
  split
  · -- the digits that are there make up a whole number of units
    rename_i within
    obtain ⟨k, hk⟩ := Int.eq_ofNat_of_zero_le (show 0 ≤ d.exponent + scale by
      unfold Decimal.scale at within
      omega)
    have whole : d.size * 10 ^ scale = ((d.coefficient * 10 ^ k : Nat) : ℚ) := by
      rw [shift, hk]
      push_cast
      rfl
    rw [whole, round_natCast, Int.cast_natCast, ← whole]
    field_simp
  · -- digits are dropped, as many as the scale is too great by
    rename_i beyond
    obtain ⟨k, hk⟩ := Int.eq_ofNat_of_zero_le (show 0 ≤ d.scale - scale by omega)
    have drop : d.exponent + scale = -(k : Int) := by
      unfold Decimal.scale at hk
      omega
    have quotient : d.size * 10 ^ scale = d.coefficient / 10 ^ k := by
      rw [shift, drop, zpow_neg, zpow_natCast, div_eq_mul_inv]
    rw [quotient, round_div_pow, hk]
    simp [size, div_eq_mul_inv]

theorem negative_roundTo : (d.roundTo scale).negative = d.negative := by
  unfold roundTo
  split <;> rfl

theorem scale_roundTo_le : (d.roundTo scale).scale ≤ scale := by
  unfold roundTo
  split
  · assumption
  · exact (neg_neg scale).le

/-- A decimal within the scale is not rounded. -/
theorem roundTo_eq_self (h : d.scale ≤ scale) : d.roundTo scale = d :=
  if_pos h

/-- A decimal beyond the scale is rounded to all of it, whatever zeros that leaves at the end. -/
theorem exponent_roundTo (beyond : scale < d.scale) : (d.roundTo scale).exponent = -scale := by
  rw [roundTo, if_neg (not_le.mpr beyond)]

/-- Rounding a decimal rounds the number it stands for. -/
theorem value_roundTo : (d.roundTo scale).value = roundHalfAway d.value scale := by
  have rounded : (d.roundTo scale).size = roundHalfAway d.size scale := by
    rw [size_roundTo, roundHalfAway_of_nonneg size_nonneg]
  unfold value
  rw [negative_roundTo, rounded]
  split
  · rw [roundHalfAway_neg size_nonneg]
  · rfl

/-! ## Equality -/

/-- Zeros that move to the exponent do not change the size. -/
theorem stripZeros_size (coefficient : Nat) (exponent : Int) :
    ((stripZeros coefficient exponent).1 : ℚ) * 10 ^ (stripZeros coefficient exponent).2 =
      coefficient * 10 ^ exponent := by
  fun_induction stripZeros coefficient exponent with
  | case1 exponent => simp
  | case2 coefficient exponent nonzero final ih =>
    have whole : (coefficient : ℚ) = 10 * (coefficient / 10 : Nat) := by
      exact_mod_cast (Nat.mul_div_cancel' (Nat.dvd_of_mod_eq_zero final)).symm
    rw [ih, whole, zpow_add₀ (by norm_num)]
    ring
  | case3 => rfl

/-- No final zeros are left in a number that is not zero. -/
theorem not_dvd_stripZeros {coefficient : Nat} {exponent : Int} (nonzero : coefficient ≠ 0) :
    ¬ 10 ∣ (stripZeros coefficient exponent).1 := by
  fun_induction stripZeros coefficient exponent with
  | case1 exponent => contradiction
  | case2 coefficient exponent _ final ih => exact ih (by omega)
  | case3 coefficient exponent _ last =>
    intro divides
    exact last (Nat.mod_eq_zero_of_dvd divides)

/-- Of two ways to write a number, one without final zeros has the greater exponent. -/
theorem exponent_le_of_not_dvd {m n : Nat} {e f : Int} (last : ¬ 10 ∣ m)
    (same : (m : ℚ) * 10 ^ e = n * 10 ^ f) : f ≤ e := by
  -- otherwise the digits without final zeros would be a multiple of ten
  by_contra less
  obtain ⟨k, hk⟩ := Int.eq_ofNat_of_zero_le (show 0 ≤ f - e - 1 by omega)
  have factored : (m : ℚ) = ((10 * (n * 10 ^ k) : Nat) : ℚ) := by
    rw [show f = e + (k + 1 : Nat) by omega, zpow_add₀ (by norm_num), zpow_natCast] at same
    have unit : (10 : ℚ) ^ e ≠ 0 := by positivity
    apply mul_right_cancel₀ unit
    rw [same]
    push_cast
    ring
  exact last ⟨n * 10 ^ k, by exact_mod_cast factored⟩

/-- Without final zeros a number is written in one way. -/
theorem eq_of_not_dvd {m n : Nat} {e f : Int} (last : ¬ 10 ∣ m) (last' : ¬ 10 ∣ n)
    (same : (m : ℚ) * 10 ^ e = n * 10 ^ f) : (m, e) = (n, f) := by
  have exponents : e = f :=
    le_antisymm (exponent_le_of_not_dvd last' same.symm) (exponent_le_of_not_dvd last same)
  subst exponents
  have unit : (10 : ℚ) ^ e ≠ 0 := by positivity
  have coefficients : m = n := by exact_mod_cast mul_right_cancel₀ unit same
  rw [coefficients]

/-- Decimals have the same digits, but for final zeros, when they stand for numbers of the same
size. -/
theorem stripZeros_eq_iff :
    stripZeros a.coefficient a.exponent = stripZeros b.coefficient b.exponent ↔
      a.size = b.size := by
  -- taking final zeros away keeps the size
  have sizeA := stripZeros_size a.coefficient a.exponent
  have sizeB := stripZeros_size b.coefficient b.exponent
  constructor
  · intro same
    rw [size, size, ← sizeA, ← sizeB, same]
  · intro same
    -- a zero is written without digits, and otherwise the writing is unique
    by_cases zero : a.coefficient = 0
    · have zero' : b.coefficient = 0 := by rwa [← size_eq_zero_iff, ← same, size_eq_zero_iff]
      rw [stripZeros, if_pos zero, stripZeros, if_pos zero']
    · have zero' : b.coefficient ≠ 0 := by rwa [ne_eq, ← size_eq_zero_iff, ← same, size_eq_zero_iff]
      exact eq_of_not_dvd (not_dvd_stripZeros zero) (not_dvd_stripZeros zero')
        (sizeA.trans (same.trans sizeB.symm))

/-- Decimals are equal when they stand for the same number. -/
theorem equal_iff : a.equal b ↔ a.value = b.value := by
  -- equal are decimals of one size with one sign, where the sign of a zero does not count
  have signs : a.equal b ↔
      a.size = b.size ∧ (a.negative = b.negative ∨ a.coefficient = 0) := by
    rw [← stripZeros_eq_iff]
    simp [equal]
  rw [signs]
  constructor
  · rintro ⟨sameSize, sameSign | zero⟩
    · rw [value, value, sameSize, sameSign]
    · have zero' : b.coefficient = 0 := by
        rwa [← size_eq_zero_iff, ← sameSize, size_eq_zero_iff]
      rw [value_eq_zero_iff.mpr zero, value_eq_zero_iff.mpr zero']
  · intro same
    have sameSize : a.size = b.size := by rw [← abs_value, same, abs_value]
    refine ⟨sameSize, ?_⟩
    by_contra apart
    rw [not_or, ← size_eq_zero_iff] at apart
    obtain ⟨otherSign, nonzero⟩ := apart
    -- numbers of the same size and different signs differ by twice the size
    have opposite : b.negative = !a.negative := Bool.eq_not.mpr (Ne.symm otherSign)
    rw [value, value, opposite, ← sameSize] at same
    apply nonzero
    cases sign : a.negative with
    | false =>
      rw [sign, if_neg (by decide), if_pos (by decide)] at same
      linarith
    | true =>
      rw [sign, if_pos rfl, if_neg (by decide)] at same
      linarith

end Decimal

end Sluice
