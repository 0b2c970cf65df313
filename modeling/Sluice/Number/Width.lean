/-!
# Widths of whole numbers

The bounds of the fixed-width whole numbers that rows, parameters and settings hold. Values are
`Int` and `Nat` throughout; a bound is checked where a value enters from text or JSON.
-/

namespace Sluice.Number

/-- The least 32-bit signed number. -/
def int32Least : Int := -2147483648

/-- The greatest 32-bit signed number. -/
def int32Greatest : Int := 2147483647

/-- The least 64-bit signed number. -/
def int64Least : Int := -9223372036854775808

/-- The greatest 64-bit signed number. -/
def int64Greatest : Int := 9223372036854775807

/-- The greatest 16-bit unsigned number. -/
def uint16Greatest : Nat := 65535

/-- The greatest 32-bit unsigned number. -/
def uint32Greatest : Nat := 4294967295

/-- The greatest 64-bit unsigned number. -/
def uint64Greatest : Nat := 18446744073709551615

/-- A number that fits 32 signed bits. -/
def IsInt32 (n : Int) : Prop :=
  int32Least ≤ n ∧ n ≤ int32Greatest

instance (n : Int) : Decidable (IsInt32 n) :=
  inferInstanceAs (Decidable (_ ∧ _))

/-- A number that fits 64 signed bits. -/
def IsInt64 (n : Int) : Prop :=
  int64Least ≤ n ∧ n ≤ int64Greatest

instance (n : Int) : Decidable (IsInt64 n) :=
  inferInstanceAs (Decidable (_ ∧ _))

end Sluice.Number
