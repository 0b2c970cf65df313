import Sluice.Decimal.Reader
import Sluice.Number.Width
import Sluice.Proofs.Decimal.Coercion

/-!
# Coercion as it is computed

The digits before and after the point are computed in 32 bits, and a decimal is rounded by giving it
another exponent, which fails when the outcome is no decimal that can be held. On the decimals that
can be held, and these are what is read from text, neither gets in the way: the computation goes
through and its result is the one that is defined without bounds.

## Main definitions

* `Decimal.Held`: the decimals that can be held.
* `Decimal.enforce32?`: coercion with 32-bit steps.

## Main statements

* `Decimal.held_of_read`: what is read can be held.
* `Decimal.enforce32?_eq`: coercion with 32-bit steps is coercion.
* `Decimal.coerced_exactly`: what coercion does to a number that is not zero.
-/

namespace Sluice

/-! ## 32-bit steps -/

namespace Number

/-- A number that fits 32 signed bits; nothing where it overflows them. -/
def int32? (n : Int) : Option Int :=
  if IsInt32 n then some n else none

/-- The nearest number that fits 32 signed bits. -/
def saturate32 (n : Int) : Int :=
  max int32Least (min int32Greatest n)

variable {n : Int}

theorem int32?_eq_some (h : IsInt32 n) : int32? n = some n :=
  if_pos h

theorem saturate32_eq_self (h : IsInt32 n) : saturate32 n = n := by
  rw [saturate32, min_eq_right h.2, max_eq_right h.1]

end Number

open Number

namespace Decimal

variable {d : Decimal} {p s : Int}

/-- The coefficient and the exponents of the first and of the last digit are within bounds. -/
structure Held (d : Decimal) : Prop where
  precision : d.precision ≤ greatestPrecision
  last : leastExponent ≤ d.exponent
  first : d.exponent + d.precision - 1 ≤ greatestExponent

instance : Decidable d.Held :=
  decidable_of_iff (d.precision ≤ greatestPrecision ∧ leastExponent ≤ d.exponent ∧
      d.exponent + d.precision - 1 ≤ greatestExponent)
    ⟨fun ⟨precision, last, first⟩ => ⟨precision, last, first⟩,
      fun h => ⟨h.precision, h.last, h.first⟩⟩

/-- The digits before the point. The digits after it must fit 32 bits, and the difference is cut off
at the ends. -/
def integerDigits32? (d : Decimal) : Option Int := do
  let scale ← int32? d.scale
  return saturate32 (min int32Greatest d.precision - scale)

/-- The decimal with another exponent, rounded half away from zero, if it can be held. -/
def rescale? (d : Decimal) (exponent : Int) : Option Decimal :=
  let rescaled : Decimal :=
    { d with
      coefficient :=
        if d.exponent ≤ exponent then dropHalfUp d.coefficient (exponent - d.exponent).toNat
        else d.coefficient * 10 ^ (d.exponent - exponent).toNat
      exponent }
  if rescaled.Held then some rescaled else none

/-- Coercion with 32-bit steps; nothing where one of them overflows. -/
def enforce32? (d : Decimal) (p s : Int) : Option (Except DecimalError (Option Numeric)) :=
  let refused := .error (.outOfRange (.finite d) p s)
  match checkDecimalBounds p s with
  | .error e => some (.error e)
  | .ok () => do
    let room ← int32? (p - s)
    let digits ← d.integerDigits32?
    if room < digits then return refused else
    let scale ← int32? d.scale
    if scale ≤ s then return .ok (some (.finite d)) else
    let exponent ← int32? (-s)
    match d.rescale? exponent with
    | none => return refused
    | some rounded => do
      let digits ← rounded.integerDigits32?
      if room < digits then return refused else return .ok (some (.finite rounded))

/-! ## What is read can be held -/

/-- Dropping zeros takes that many digits away. -/
theorem digitCount_of_dropZeros {coefficient drop kept : Nat} (nonzero : coefficient ≠ 0)
    (h : dropZeros? coefficient drop = some kept) :
    digitCount kept = digitCount coefficient - drop := by
  unfold dropZeros? at h
  split at h
  · -- nothing is dropped, of a zero or of any number
    rename_i none
    obtain rfl : drop = 0 := none.resolve_right nonzero
    rw [← Option.some.inj h, Nat.sub_zero]
  · split at h
    · contradiction
    · rename_i enough
      split at h
      · -- all that is dropped is zeros, so the quotient has so many digits less
        rw [← Option.some.inj h]
        change digitCount (coefficient / 10 ^ drop) = _
        rw [digitCount_eq, digitCount_eq, Nat.log_div_base_pow]
        rw [digitCount_eq] at enough
        omega
      · contradiction

/-- A decimal that was made to fit can be held. -/
theorem held_of_fit {negative : Bool} {coefficient : Nat} {exponent : Int}
    (h : fit? negative coefficient exponent = some d) : d.Held := by
  unfold fit? at h
  split at h
  · -- a zero keeps its exponent within the limits
    obtain rfl := Option.some.inj h
    have digit : digitCount 0 = 1 := by decide +kernel
    refine ⟨?_, ?_, ?_⟩
    · rw [precision, digit]
      decide
    · exact le_max_left _ _
    · rw [precision, digit]
      change max leastExponent (min greatestExponent exponent) + 1 - 1 ≤ greatestExponent
      unfold leastExponent greatestExponent
      omega
  · rename_i nonzero
    obtain ⟨kept, dropped, h⟩ := Option.bind_eq_some_iff.mp h
    have digits := digitCount_of_dropZeros nonzero dropped
    dsimp only at h
    split at h
    · contradiction
    · rename_i within
      obtain rfl := Option.some.inj h
      -- as many digits are dropped as are too many, and as the exponent is too small by
      refine ⟨?_, ?_, ?_⟩
      · rw [precision, digits]
        omega
      · dsimp only
        omega
      · exact not_lt.mp within

/-- What is read can be held. -/
theorem held_of_read {text : String} (h : read text = .ok d) : d.Held := by
  -- every way to read ends by making the digits fit
  have unsigned {negative : Bool} {cs : List Char} (h : readUnsigned? negative cs = some d) :
      d.Held := by
    unfold readUnsigned? at h
    dsimp only at h
    split at h
    · contradiction
    · obtain ⟨exponent, -, fit⟩ := Option.bind_eq_some_iff.mp h
      exact held_of_fit fit
  unfold read at h
  split at h
  · rename_i readChars
    obtain rfl := Except.ok.inj h
    -- with either sign, or without one
    unfold readChars? at readChars
    split at readChars
    · exact unsigned readChars
    · exact unsigned readChars
    · exact unsigned readChars
  · contradiction

/-! ## Steps on decimals that can be held -/

theorem precision_pos : 0 < d.precision := by
  rw [precision, digitCount_eq]
  exact Nat.succ_pos _

namespace Held

/-- The digits after the point of a decimal that can be held fit 32 bits. -/
theorem isInt32_scale (h : d.Held) : IsInt32 d.scale := by
  obtain ⟨-, last, first⟩ := h
  have : 0 < d.precision := precision_pos
  unfold leastExponent at last
  unfold greatestExponent at first
  unfold IsInt32 int32Least int32Greatest Decimal.scale
  omega

/-- The digits before the point of a decimal that can be held are not cut off. -/
theorem integerDigits32?_eq (h : d.Held) : d.integerDigits32? = some d.integerDigits := by
  -- there are few digits, so their count is not cut off
  have digits : min int32Greatest (d.precision : Int) = d.precision := by
    have := h.precision
    unfold greatestPrecision at this
    unfold int32Greatest
    omega
  -- and the exponents are small against 32 bits
  have fits : IsInt32 d.integerDigits := by
    obtain ⟨precision, last, first⟩ := h
    unfold greatestPrecision at precision
    unfold leastExponent at last
    unfold greatestExponent at first
    unfold IsInt32 int32Least int32Greatest integerDigits Decimal.scale
    omega
  rw [integerDigits32?, int32?_eq_some h.isInt32_scale, digits]
  change some (saturate32 d.integerDigits) = _
  rw [saturate32_eq_self fits]

end Held

/-- Dropping digits makes no coefficient greater. -/
theorem dropHalfUp_le (coefficient drop : Nat) : dropHalfUp coefficient drop ≤ coefficient := by
  unfold dropHalfUp
  split
  · exact le_rfl
  · split
    · exact Nat.zero_le _
    · rename_i some _
      -- dropping at least one digit divides by ten at least, which makes up for rounding up
      obtain ⟨k, rfl⟩ := Nat.exists_eq_succ_of_ne_zero some
      have unit : 0 < 10 ^ k := by positivity
      have grown : coefficient ≤ coefficient * 10 ^ k := Nat.le_mul_of_pos_right _ unit
      apply Nat.le_of_lt_succ
      apply Nat.div_lt_of_lt_mul
      change coefficient + 5 * 10 ^ k < 10 ^ (k + 1) * (coefficient + 1)
      calc coefficient + 5 * 10 ^ k < coefficient * 10 ^ k + 10 * 10 ^ k := by omega
        _ ≤ 10 * (coefficient * 10 ^ k) + 10 * 10 ^ k := by omega
        _ = 10 ^ (k + 1) * (coefficient + 1) := by ring

/-- What a decimal that can be held is rounded to can be held. -/
theorem Held.roundTo (h : d.Held) (bounds : ValidDecimalBounds p s) : (d.roundTo s).Held := by
  by_cases within : d.scale ≤ s
  · rwa [roundTo_eq_self within]
  · obtain ⟨precision, last, -⟩ := h
    -- rounding adds no digits
    have fewer : (d.roundTo s).precision ≤ greatestPrecision := by
      rw [Decimal.roundTo, if_neg within]
      exact (digitCount_mono (dropHalfUp_le _ _)).trans precision
    have exponent : (d.roundTo s).exponent = -s := exponent_roundTo (not_le.mp within)
    obtain ⟨-, nonnegative, -⟩ := bounds
    unfold Decimal.scale at within
    refine ⟨fewer, ?_, ?_⟩
    · -- the exponent only grows when digits are dropped
      omega
    · rw [exponent]
      unfold greatestPrecision at fewer
      unfold greatestExponent
      omega

/-- Rounding is what the other exponent makes of a decimal that can be held. -/
theorem rescale?_eq (h : d.Held) (bounds : ValidDecimalBounds p s) (beyond : s < d.scale) :
    d.rescale? (-s) = some (d.roundTo s) := by
  have rescaled : d.roundTo s =
      { d with
        coefficient := dropHalfUp d.coefficient (-s - d.exponent).toNat
        exponent := -s } := by
    rw [Decimal.roundTo, if_neg (not_le.mpr beyond), Decimal.scale, Int.sub_eq_add_neg,
      Int.sub_eq_add_neg, Int.add_comm]
  have after : d.exponent ≤ -s := by
    unfold Decimal.scale at beyond
    omega
  have held := h.roundTo bounds
  rw [rescaled] at held ⊢
  rw [rescale?, if_pos after]
  exact if_pos held

/-- Coercion with 32-bit steps goes through and is coercion. -/
theorem enforce32?_eq (h : d.Held) (hp : IsInt32 p) (bounds : ValidDecimalBounds p s) :
    d.enforce32? p s = some (Numeric.enforce? (some (.finite d)) p s) := by
  -- each step stays within 32 bits, as the bounds and the held decimal do
  have ⟨positive, nonnegative, within⟩ := bounds
  have room : int32? (p - s) = some (p - s) := by
    apply int32?_eq_some
    unfold IsInt32 int32Least at hp ⊢
    omega
  have exponent : int32? (-s) = some (-s) := by
    apply int32?_eq_some
    unfold IsInt32 int32Least int32Greatest at hp ⊢
    omega
  have rounded := h.roundTo bounds
  rw [enforce32?, checkDecimalBounds_eq_ok_iff.mpr bounds, enforce?_eq bounds]
  simp only [room, exponent, h.integerDigits32?_eq, int32?_eq_some h.isInt32_scale,
    Option.bind_eq_bind, Option.bind_some]
  -- both ways refuse on the same two counts, one before and one after rounding
  by_cases before : p - s < d.integerDigits
  · have refused : ¬ d.Fits p s := fun fits => absurd fits.1 (not_le.mpr before)
    rw [if_pos before, if_neg refused]
    rfl
  rw [if_neg before]
  by_cases within : d.scale ≤ s
  · have same : d.roundTo s = d := roundTo_eq_self within
    have fits : d.Fits p s := ⟨not_lt.mp before, by rw [same]; exact not_lt.mp before⟩
    rw [if_pos within, if_pos fits, same]
    rfl
  rw [if_neg within, rescale?_eq h bounds (not_le.mp within)]
  simp only [rounded.integerDigits32?_eq, Option.bind_some]
  by_cases after : p - s < (d.roundTo s).integerDigits
  · have refused : ¬ d.Fits p s := fun fits => absurd fits.2 (not_le.mpr after)
    rw [if_pos after, if_neg refused]
    rfl
  · have fits : d.Fits p s := ⟨not_lt.mp before, not_lt.mp after⟩
    rw [if_neg after, if_pos fits]
    rfl

/-- Far out of the range of decimals a step overflows. -/
example : enforce32? ⟨false, 1, -2147483648⟩ 5 2 = none := by
  decide +kernel

/-- A number that is not zero is left as it is when it has no digits beyond the scale, and else it
is rounded half away from zero. The outcome is accepted when it is small enough, and the error names
the number as it was. No 32-bit step overflows, and what was accepted is accepted as it is. -/
theorem coerced_exactly (h : d.Held) (nonzero : d.coefficient ≠ 0) (hp : IsInt32 p)
    (bounds : ValidDecimalBounds p s) :
    ∃ r : Decimal,
      ((d.scale ≤ s → r = d) ∧
        (s < d.scale → r.negative = d.negative ∧ r.scale = s ∧
          r.value = roundHalfAway d.value s)) ∧
      Numeric.enforce? (some (.finite d)) p s =
        (if |r.value| < 10 ^ (p - s) then .ok (some (.finite r))
          else .error (.outOfRange (.finite d) p s)) ∧
      d.enforce32? p s = some (Numeric.enforce? (some (.finite d)) p s) ∧
      r.scale ≤ s ∧
      (|r.value| < 10 ^ (p - s) →
        Numeric.enforce? (some (.finite r)) p s = .ok (some (.finite r))) := by
  -- being small enough and fitting are the same for a number that is not zero
  have small : |(d.roundTo s).value| < 10 ^ (p - s) ↔ d.Fits p s := by
    rw [fits_iff bounds nonzero, value_roundTo]
  refine ⟨d.roundTo s, ⟨roundTo_eq_self, ?_⟩, ?_, enforce32?_eq h hp bounds, scale_roundTo_le, ?_⟩
  · intro beyond
    refine ⟨negative_roundTo, ?_, value_roundTo⟩
    rw [scale, exponent_roundTo beyond, neg_neg]
  · rw [enforce?_eq bounds]
    simp only [small]
  · -- what was accepted has no digits beyond the scale, and is left as it is
    intro accepted
    have again : (d.roundTo s).Fits p s := (small.mp accepted).roundTo
    rw [enforce?_eq bounds, if_pos again, roundTo_eq_self scale_roundTo_le]

/-- A number that is rounded up to a new digit, where there is room for the digit and where there is
none. -/
theorem coerced_exactly_carried :
    let d : Decimal := ⟨true, 99995, -3⟩
    d.Held ∧ d.coefficient ≠ 0 ∧ IsInt32 5 ∧ ValidDecimalBounds 5 2 ∧ ValidDecimalBounds 4 2 ∧
      (∃ r : Decimal, r.value = -100 ∧
        Numeric.enforce? (some (.finite d)) 5 2 = .ok (some (.finite r))) ∧
      Numeric.enforce? (some (.finite d)) 4 2 = .error (.outOfRange (.finite d) 4 2) := by
  intro d
  have held : d.Held := by decide +kernel
  have nonzero : d.coefficient ≠ 0 := by decide
  have bounds : ValidDecimalBounds 5 2 := ⟨by decide, by decide, by decide⟩
  have bounds' : ValidDecimalBounds 4 2 := ⟨by decide, by decide, by decide⟩
  have rounded : roundHalfAway d.value 2 = -100 := by
    have value : d.value = -(99995 / 1000) := by
      simp only [d, Decimal.value, size, if_pos]
      norm_num
    rw [value, roundHalfAway_neg (by norm_num), roundHalfAway_of_nonneg (by norm_num), round_eq]
    norm_num
  -- both examples round the same number, to a value with one more digit
  have beyond : 2 < d.scale := by decide
  refine ⟨held, nonzero, by decide, bounds, bounds', ?_, ?_⟩
  · obtain ⟨r, ⟨-, rounds⟩, result, -⟩ := coerced_exactly held nonzero (by decide) bounds
    have value := (rounds beyond).2.2.trans rounded
    rw [value, if_pos (by norm_num)] at result
    exact ⟨r, value, result⟩
  · obtain ⟨r, ⟨-, rounds⟩, result, -⟩ := coerced_exactly held nonzero (by decide) bounds'
    rw [(rounds beyond).2.2.trans rounded, if_neg (by norm_num)] at result
    exact result

end Decimal

end Sluice
