/-!
# Binary floating-point numbers

The 64-bit binary numbers as exact values: a sign, a whole significand and a power of two. Rows
carry these numbers, compare them and print them, so no rounded arithmetic is needed beyond
reading one: `Binary64.nearest` rounds a ratio of naturals to the nearest such number, ties to the
even significand, and products and quotients round the exact result once.
-/

namespace Sluice.Number

/-- A 64-bit binary number. A finite one is `± significand * 2 ^ exponent`. -/
inductive Binary64 where
  | nan
  | infinite (negative : Bool)
  | finite (negative : Bool) (significand : Nat) (exponent : Int)
deriving DecidableEq, Repr, Inhabited

namespace Binary64

/-- The exponent of the smallest positive number. -/
def leastExponent : Int := -1074

/-- The exponent of the largest finite numbers. -/
def greatestExponent : Int := 971

/-- The number zero, which keeps its sign. -/
def zero (negative : Bool) : Binary64 :=
  .finite negative 0 leastExponent

/-- `num / den` rounded to the nearest natural, ties to the even one. -/
def roundHalfEven (num den : Nat) : Nat :=
  let q := num / den
  let r := num % den
  if 2 * r < den then q
  else if den < 2 * r then q + 1
  else if q % 2 = 0 then q else q + 1

/-- `num / den` divided by `2 ^ e`, as a ratio of naturals. -/
def scaleDown (num den : Nat) (e : Int) : Nat × Nat :=
  if 0 ≤ e then (num, den * Nat.pow 2 e.toNat) else (num * Nat.pow 2 (-e).toNat, den)

/-- The exponent at which `num / den` has a significand of 53 bits, or the least one. -/
def fittingExponent (num den : Nat) : Int :=
  let guess := max leastExponent ((Nat.log2 num : Int) - Nat.log2 den - 53)
  let scaled := scaleDown num den guess
  if scaled.1 / scaled.2 < Nat.pow 2 53 then guess else guess + 1

/-- The number nearest to `± num / den`. -/
def nearest (negative : Bool) (num den : Nat) : Binary64 :=
  if num = 0 then zero negative
  else
    let e := fittingExponent num den
    let scaled := scaleDown num den e
    let m := roundHalfEven scaled.1 scaled.2
    -- rounding may carry into a new digit, which makes the exponent greater
    let (m, e) := if m = Nat.pow 2 53 then (Nat.pow 2 52, e + 1) else (m, e)
    if greatestExponent < e then .infinite negative else .finite negative m e

/-- The number nearest to a whole number. -/
def ofInt (n : Int) : Binary64 :=
  nearest (n < 0) n.natAbs 1

/-- The size of a finite number as a ratio of naturals. -/
def ratio (significand : Nat) (exponent : Int) : Nat × Nat :=
  if 0 ≤ exponent then (significand * Nat.pow 2 exponent.toNat, 1)
  else (significand, Nat.pow 2 (-exponent).toNat)

/-- The number nearest to the product of the sizes of two finite numbers. -/
def times : Binary64 → Binary64 → Binary64
  | .finite s m e, .finite _ m' e' =>
    let a := ratio m e
    let b := ratio m' e'
    nearest s (a.1 * b.1) (a.2 * b.2)
  | x, _ => x

/-- The number nearest to the quotient of the sizes of two finite numbers. -/
def dividedBy : Binary64 → Binary64 → Binary64
  | .finite s m e, .finite _ m' e' =>
    let a := ratio m e
    let b := ratio m' e'
    nearest s (a.1 * b.2) (a.2 * b.1)
  | x, _ => x

/-- The number nearest to a power of ten. -/
def powerOfTen (k : Nat) : Binary64 :=
  nearest false (Nat.pow 10 k) 1

/-- The number with the sign given. -/
def withSign (negative : Bool) : Binary64 → Binary64
  | .nan => .nan
  | .infinite _ => .infinite negative
  | .finite _ m e => .finite negative m e

/-- Whether the number is a zero of either sign. -/
def isZero : Binary64 → Bool
  | .finite _ m _ => m == 0
  | _ => false

/-- Whether the number is an infinity of either sign. -/
def isInfinite : Binary64 → Bool
  | .infinite _ => true
  | _ => false

/-- Equality of numbers: a NaN equals nothing, and the two zeros are equal. -/
def equal : Binary64 → Binary64 → Bool
  | .nan, _ => false
  | _, .nan => false
  | x, y => x == y || (x.isZero && y.isZero)

end Binary64

end Sluice.Number
