import Sluice.Decimal.Bounds
import Sluice.Proofs.Decimal.Value
import Sluice.Proofs.Except

/-!
# Bringing decimals into bounds

Whether a decimal fits a type is decided on its digits, before and after it is rounded. For a number
other than zero this comes to a comparison of the rounded number with a power of ten, so it does not
depend on how the number is written. A zero is taken for a number with one digit where its exponent
puts it, and is refused when there is no room for that digit.

## Main definitions

* `Decimal.Fits`: the decimals that are brought into bounds and not refused.

## Main statements

* `Decimal.fits_iff`: a number other than zero fits when it is small enough once it is rounded.
* `Decimal.fits_zero_iff`: a zero fits when there is room for the digit it is written with.
* `Decimal.enforce_of_equal`: the coercion of decimals that stand for the same number.
* `Decimal.zero_refused`: a zero that is refused while another one is accepted.
-/

namespace Sluice.Decimal

variable {d e : Decimal} {p s : Int}

/-- Neither the decimal nor what it is rounded to has more digits before the point than a type has
room for. -/
def Fits (d : Decimal) (p s : Int) : Prop :=
  d.integerDigits ≤ p - s ∧ (d.roundTo s).integerDigits ≤ p - s

instance : Decidable (d.Fits p s) :=
  inferInstanceAs (Decidable (_ ∧ _))

/-- A decimal that fits is rounded, and any other one is refused. -/
theorem enforce_eq (bounds : ValidDecimalBounds p s) :
    (Numeric.finite d).enforce p s =
      if d.Fits p s then .ok (.finite (d.roundTo s))
      else .error (.outOfRange (.finite d) p s) := by
  rw [Numeric.enforce, checkDecimalBounds_eq_ok_iff.mpr bounds]
  change (if p - s < d.integerDigits ∨ p - s < (d.roundTo s).integerDigits then
    Except.error (DecimalError.outOfRange (.finite d) p s)
    else .ok (Numeric.finite (d.roundTo s))) = _
  -- refused is what does not fit, before rounding or after
  have refused : (p - s < d.integerDigits ∨ p - s < (d.roundTo s).integerDigits) ↔
      ¬ d.Fits p s := by
    unfold Fits
    omega
  by_cases fits : d.Fits p s
  · rw [if_neg (refused.not.mpr (not_not_intro fits)), if_pos fits]
  · rw [if_pos (refused.mpr fits), if_neg fits]

/-- A decimal that may be absent is coerced like one that is there. -/
theorem enforce?_eq (bounds : ValidDecimalBounds p s) :
    Numeric.enforce? (some (.finite d)) p s =
      if d.Fits p s then .ok (some (.finite (d.roundTo s)))
      else .error (.outOfRange (.finite d) p s) := by
  rw [Numeric.enforce?, enforce_eq bounds]
  split <;> rfl

/-- A decimal is accepted when it fits. -/
theorem enforce?_eq_ok_iff (bounds : ValidDecimalBounds p s) {result : Option Numeric} :
    Numeric.enforce? (some (.finite d)) p s = .ok result ↔
      d.Fits p s ∧ some (.finite (d.roundTo s)) = result := by
  rw [enforce?_eq bounds]
  split
  · simp [*]
  · simp [*]

/-! ## What fits -/

/-- A zero that is written with the digits of the scale has one digit before them. -/
theorem integerDigits_roundTo_of_zero (zero : (d.roundTo s).coefficient = 0)
    (beyond : s < d.scale) : (d.roundTo s).integerDigits = 1 - s := by
  rw [integerDigits, precision, zero, scale, exponent_roundTo beyond, neg_neg]
  simp [digitCount]

/-- Whatever is left of a number that is not zero, its digits before the point bound its size. -/
theorem integerDigits_roundTo_le_iff (bounds : ValidDecimalBounds p s)
    (nonzero : d.coefficient ≠ 0) :
    (d.roundTo s).integerDigits ≤ p - s ↔ (d.roundTo s).size < 10 ^ (p - s) := by
  by_cases zero : (d.roundTo s).coefficient = 0
  · have beyond : s < d.scale := by
      by_contra within
      rw [roundTo_eq_self (not_lt.mp within)] at zero
      contradiction
    -- a number that was rounded to zero fits any type
    rw [integerDigits_roundTo_of_zero zero beyond, size_eq_zero_iff.mpr zero]
    have room : 1 - s ≤ p - s := Int.sub_le_sub_right bounds.1 s
    have positive : (0 : ℚ) < 10 ^ (p - s) := by positivity
    exact iff_of_true room positive
  · exact integerDigits_le_iff zero

/-- A number that is small enough once it is rounded was so before. -/
theorem size_lt_of_size_roundTo_lt (bounds : ValidDecimalBounds p s)
    (small : (d.roundTo s).size < 10 ^ (p - s)) : d.size < 10 ^ (p - s) := by
  by_contra great
  rw [not_lt] at great
  -- the precision is a whole number, so the limit is a power with a whole exponent
  obtain ⟨positive, -, -⟩ := bounds
  obtain ⟨n, rfl⟩ := Int.eq_ofNat_of_zero_le (show 0 ≤ p by omega)
  have unit : (0 : ℚ) < 10 ^ s := by positivity
  have limit : (10 : ℚ) ^ ((n : Int) - s) = (10 ^ n : Nat) / 10 ^ s := by
    rw [zpow_sub₀ (by norm_num), zpow_natCast, Nat.cast_pow, Nat.cast_ofNat]
  -- the limit is a whole number of units, and rounding does not go below one
  have units : ((10 ^ n : Nat) : ℚ) ≤ d.size * 10 ^ s := by
    rwa [limit, div_le_iff₀ unit] at great
  have kept : ((10 ^ n : Nat) : Int) ≤ round (d.size * 10 ^ s) := by
    rw [round_eq, Int.le_floor, Int.cast_natCast]
    linarith
  rw [size_roundTo, limit, div_lt_div_iff_of_pos_right unit] at small
  have less : round (d.size * 10 ^ s) < ((10 ^ n : Nat) : Int) := by exact_mod_cast small
  omega

/-- A number that is not zero fits when it is small enough once it is rounded. -/
theorem fits_iff (bounds : ValidDecimalBounds p s) (nonzero : d.coefficient ≠ 0) :
    d.Fits p s ↔ |roundHalfAway d.value s| < 10 ^ (p - s) := by
  -- the count before rounding asks for nothing that the count after it does not ask for
  rw [← value_roundTo, abs_value, Fits, integerDigits_le_iff nonzero,
    integerDigits_roundTo_le_iff bounds nonzero]
  exact and_iff_right_of_imp (size_lt_of_size_roundTo_lt bounds)

/-- A zero fits when there is room for the digit it is written with. -/
theorem fits_zero_iff (bounds : ValidDecimalBounds p s) (zero : d.coefficient = 0) :
    d.Fits p s ↔ d.exponent < p - s := by
  -- a zero counts as one digit, which the exponent moves
  have digits : d.integerDigits = 1 + d.exponent := by
    rw [integerDigits, precision, zero, scale]
    simp [digitCount]
  unfold Fits
  by_cases within : d.scale ≤ s
  · rw [roundTo_eq_self within]
    omega
  · have stillZero : (d.roundTo s).coefficient = 0 := by
      rw [← size_eq_zero_iff, size_roundTo, size_eq_zero_iff.mpr zero]
      simp
    rw [integerDigits_roundTo_of_zero stillZero (not_le.mp within)]
    obtain ⟨positive, -, -⟩ := bounds
    omega

/-- What was brought into bounds is within them. -/
theorem Fits.roundTo (h : d.Fits p s) : (d.roundTo s).Fits p s := by
  rw [Fits, roundTo_eq_self scale_roundTo_le]
  exact ⟨h.2, h.2⟩

/-- Accepted is a decimal that fits, once it is rounded. -/
theorem enforce_eq_ok_iff {n m : Numeric} :
    n.enforce p s = .ok m ↔
      ValidDecimalBounds p s ∧ ∃ d : Decimal, n = .finite d ∧ d.Fits p s ∧
        m = .finite (d.roundTo s) := by
  constructor
  · intro h
    -- the bounds are checked before the number is looked at
    obtain ⟨⟨⟩, checked, h⟩ := bind_eq_ok_iff.mp h
    have bounds : ValidDecimalBounds p s := checkDecimalBounds_eq_ok_iff.mp checked
    cases n with
    | finite d =>
      have accepted : (Numeric.finite d).enforce p s = .ok m :=
        bind_eq_ok_iff.mpr ⟨(), checked, h⟩
      rw [enforce_eq bounds] at accepted
      split at accepted
      · exact ⟨bounds, d, rfl, ‹_›, (Except.ok.inj accepted).symm⟩
      · contradiction
    | infinite negative => contradiction
    | nan => contradiction
  · rintro ⟨bounds, d, rfl, fits, rfl⟩
    rw [enforce_eq bounds, if_pos fits]

/-- What was accepted is accepted as it is. -/
theorem enforce_of_enforce {n m : Numeric} (h : n.enforce p s = .ok m) : m.enforce p s = .ok m := by
  obtain ⟨bounds, d, rfl, fits, rfl⟩ := enforce_eq_ok_iff.mp h
  apply enforce_eq_ok_iff.mpr
  exact ⟨bounds, d.roundTo s, rfl, fits.roundTo, by rw [roundTo_eq_self scale_roundTo_le]⟩

/-! ## Equal decimals -/

/-- Equal decimals are coerced to equal ones where both are accepted, and unless they are zero, one
is accepted when the other is. A zero is accepted when there is room for the digit it is written
with. -/
theorem enforce_of_equal (bounds : ValidDecimalBounds p s) (same : d.equal e) :
    (∀ r t, Numeric.enforce? (some (.finite d)) p s = .ok (some r) →
      Numeric.enforce? (some (.finite e)) p s = .ok (some t) → r.equal t) ∧
    (d.coefficient ≠ 0 →
      ((∃ r, Numeric.enforce? (some (.finite d)) p s = .ok r) ↔
        ∃ t, Numeric.enforce? (some (.finite e)) p s = .ok t)) ∧
    (d.coefficient = 0 →
      ((∃ r, Numeric.enforce? (some (.finite d)) p s = .ok r) ↔ d.exponent < p - s) ∧
        ((∃ t, Numeric.enforce? (some (.finite e)) p s = .ok t) ↔ e.exponent < p - s)) := by
  -- equal decimals stand for one number, though their digits may differ
  have sameValue : d.value = e.value := equal_iff.mp same
  have sameZero : d.coefficient = 0 ↔ e.coefficient = 0 := by
    rw [← value_eq_zero_iff, sameValue, value_eq_zero_iff]
  have accepted (c : Decimal) :
      (∃ r, Numeric.enforce? (some (.finite c)) p s = .ok r) ↔ c.Fits p s := by
    simp [enforce?_eq_ok_iff bounds]
  refine ⟨?_, ?_, ?_⟩
  · intro r t coerced coerced'
    obtain ⟨-, rounded⟩ := (enforce?_eq_ok_iff bounds).mp coerced
    obtain ⟨-, rounded'⟩ := (enforce?_eq_ok_iff bounds).mp coerced'
    rw [← Option.some.inj rounded, ← Option.some.inj rounded']
    change (d.roundTo s).equal (e.roundTo s)
    rw [equal_iff, value_roundTo, value_roundTo, sameValue]
  · -- whether a number that is not zero fits is told from its value
    intro nonzero
    rw [accepted, accepted, fits_iff bounds nonzero, fits_iff bounds (sameZero.not.mp nonzero),
      sameValue]
  · -- a zero is told by its exponent
    intro zero
    rw [accepted, accepted]
    exact ⟨fits_zero_iff bounds zero, fits_zero_iff bounds (sameZero.mp zero)⟩

/-- A number that is rounded and one that stays as it is. -/
theorem enforce_of_equal_unrounded :
    let d : Decimal := ⟨false, 1000, -3⟩
    let e : Decimal := ⟨false, 1, 0⟩
    ValidDecimalBounds 4 2 ∧ d.equal e ∧
      ∃ r t, Numeric.enforce? (some (.finite d)) 4 2 = .ok (some r) ∧
        Numeric.enforce? (some (.finite e)) 4 2 = .ok (some t) ∧ r.equal t := by
  intro d e
  have bounds : ValidDecimalBounds 4 2 := ⟨by decide, by decide, by decide⟩
  have same : d.equal e := by decide +kernel
  have coerced :
      Numeric.enforce? (some (.finite d)) 4 2 = .ok (some (.finite ⟨false, 100, -2⟩)) := by
    decide +kernel
  have coerced' : Numeric.enforce? (some (.finite e)) 4 2 = .ok (some (.finite ⟨false, 1, 0⟩)) := by
    decide +kernel
  exact ⟨bounds, same, _, _, coerced, coerced',
    (enforce_of_equal bounds same).1 _ _ coerced coerced'⟩

/-- A zero whose digit stands too far left is refused, and the same zero is not. -/
theorem zero_refused :
    let zero : Decimal := ⟨false, 0, 0⟩
    let shifted : Decimal := ⟨false, 0, 5⟩
    zero.equal shifted ∧
      Numeric.enforce? (some (.finite zero)) 4 2 = .ok (some (.finite zero)) ∧
      Numeric.enforce? (some (.finite shifted)) 4 2 =
        .error (.outOfRange (.finite shifted) 4 2) := by
  decide +kernel

end Sluice.Decimal
