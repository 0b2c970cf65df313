import Mathlib.Data.List.Basic
import Sluice.Text.Integer

/-!
# Printed whole numbers read back

The decimal digits of a number have the number as their value, so a printed number reads back
wherever it fits.

## Main definitions

* `Text.Unsigned`: the texts of unsigned numbers of 64 bits.

## Main statements

* `Text.readInt32?_toString`: a printed number of 32 bits reads back.
* `Text.readUInt64?_eq_some_iff`: which texts are read as unsigned numbers of 64 bits.
-/

namespace Sluice.Text

open Sluice.Number

theorem natOfDigits_toDigits (n : Nat) : natOfDigits (Nat.toDigits 10 n) = n :=
  Nat.ofDigitChars_toDigits (by decide) (by decide)

theorem all_isDigit_toDigits (n : Nat) : (Nat.toDigits 10 n).all Char.isDigit = true :=
  List.all_eq_true.mpr fun _ => Nat.isDigit_of_mem_toDigits (by decide) (by decide)

/-- Only zero is written with a leading zero. -/
theorem eq_zero_of_head?_toDigits {n : Nat} (h : (Nat.toDigits 10 n).head? = some '0') :
    n = 0 := by
  -- on the number, which has one digit or loses its last one
  induction n using Nat.strongRecOn with
  | ind n ih =>
    by_cases small : n < 10
    · rw [Nat.toDigits_of_lt_base small] at h
      simpa [Nat.digitChar_eq_zero] using h
    · -- the other digits are those of a smaller number
      have leading : (Nat.toDigits 10 (n / 10)).head? = some '0' := by
        rw [Nat.toDigits_of_base_le (by decide) (by omega)] at h
        rwa [List.head?_append_of_ne_nil _ Nat.toDigits_ne_nil] at h
      have := ih (n / 10) (by omega) leading
      omega

theorem readDigits?_eq {ds : List Char} (nonempty : ds ≠ []) (chars : ds.all Char.isDigit = true) :
    readDigits? ds = some (natOfDigits ds) :=
  if_pos ⟨nonempty, chars⟩

/-- A digit is not a sign, so a text of digits is read without a sign. -/
theorem readInteger?_digits {ds : List Char} (nonempty : ds ≠ [])
    (chars : ds.all Char.isDigit = true) : readInteger? ds = some (natOfDigits ds : Int) := by
  unfold readInteger?
  split
  · simp at chars
  · simp at chars
  · rw [readDigits?_eq nonempty chars]
    rfl

theorem readInteger?_minus {ds : List Char} (nonempty : ds ≠ [])
    (chars : ds.all Char.isDigit = true) :
    readInteger? ('-' :: ds) = some (-(natOfDigits ds : Int)) := by
  rw [readInteger?, readDigits?_eq nonempty chars]
  rfl

/-- The text of a whole number: its digits, after a sign if it is negative. -/
theorem toList_toString (n : Int) :
    (toString n).toList =
      if n < 0 then '-' :: Nat.toDigits 10 n.natAbs else Nat.toDigits 10 n.natAbs := by
  rw [Int.toString_eq_repr]
  cases n with
  | ofNat m => simp [Int.repr, Nat.toList_repr]
  | negSucc m => simp [Int.repr, Nat.toList_repr, Int.negSucc_lt_zero]

theorem readInteger?_toString (n : Int) : readInteger? (toString n).toList = some n := by
  have nonempty : Nat.toDigits 10 n.natAbs ≠ [] := Nat.toDigits_ne_nil
  have chars := all_isDigit_toDigits n.natAbs
  rw [toList_toString]
  split
  · rw [readInteger?_minus nonempty chars, natOfDigits_toDigits, Option.some.injEq]
    omega
  · rw [readInteger?_digits nonempty chars, natOfDigits_toDigits, Option.some.injEq]
    omega

/-- A printed number of 32 bits reads back. -/
theorem readInt32?_toString {n : Int} (h : IsInt32 n) :
    readInt32? (toString n).toList = some n := by
  rw [readInt32?, readInteger?_toString]
  simp [h]

/-- A number that was read as one of 32 bits is one. -/
theorem isInt32_of_readInt32? {cs : List Char} {n : Int} (h : readInt32? cs = some n) :
    IsInt32 n := by
  simpa using (Option.filter_eq_some_iff.mp h).2

/-! ## Unsigned numbers -/

/-- The text is an unsigned number of 64 bits: digits, after a plus sign or none. -/
inductive Unsigned : List Char → Nat → Prop
  | plain {ds : List Char} (nonempty : ds ≠ []) (digits : ds.all Char.isDigit = true)
      (fits : natOfDigits ds ≤ uint64Greatest) : Unsigned ds (natOfDigits ds)
  | plus {ds : List Char} (nonempty : ds ≠ []) (digits : ds.all Char.isDigit = true)
      (fits : natOfDigits ds ≤ uint64Greatest) : Unsigned ('+' :: ds) (natOfDigits ds)

variable {cs : List Char} {n : Nat}

theorem Unsigned.fits (h : Unsigned cs n) : n ≤ uint64Greatest := by
  cases h with
  | plain _ _ fits => exact fits
  | plus _ _ fits => exact fits

theorem readDigits?_eq_some_iff :
    readDigits? cs = some n ↔ cs ≠ [] ∧ cs.all Char.isDigit = true ∧ natOfDigits cs = n := by
  unfold readDigits?
  split
  · rename_i h
    simp only [Option.some.injEq, h, true_and, ne_eq, not_false_eq_true]
  · rename_i h
    simp only [reduceCtorEq, false_iff]
    exact fun other => h ⟨other.1, other.2.1⟩

/-- The texts of unsigned numbers are read, and no others. -/
theorem readUInt64?_eq_some_iff : readUInt64? cs = some n ↔ Unsigned cs n := by
  unfold readUInt64?
  rw [Option.filter_eq_some_iff, decide_eq_true_iff]
  constructor
  · -- the digits are read after a plus sign, or from the beginning
    rintro ⟨read, fits⟩
    split at read
    · obtain ⟨nonempty, digits, rfl⟩ := readDigits?_eq_some_iff.mp read
      exact .plus nonempty digits fits
    · obtain ⟨nonempty, digits, rfl⟩ := readDigits?_eq_some_iff.mp read
      exact .plain nonempty digits fits
  · intro h
    refine ⟨?_, h.fits⟩
    cases h with
    | plain nonempty digits =>
      split
      -- a plus sign is not a digit
      · simp at digits
      · exact readDigits?_eq nonempty digits
    | plus nonempty digits => exact readDigits?_eq nonempty digits

end Sluice.Text
