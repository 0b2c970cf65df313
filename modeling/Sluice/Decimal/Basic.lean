/-!
# Decimal numbers

A finite decimal is `± coefficient * 10 ^ exponent`. Its precision is the number of digits of the
coefficient and its scale is minus the exponent, so `10.012` has precision 5 and scale 3, and
`1.0` and `1.00` are different decimals of the same size. A column may also hold an infinity or a
NaN, which fit no `DECIMAL` type.
-/

namespace Sluice

/-- The number of decimal digits of a natural; zero has one. -/
def digitCount (n : Nat) : Nat :=
  if n < 10 then 1 else digitCount (n / 10) + 1

/-- A finite decimal number. -/
structure Decimal where
  negative : Bool
  coefficient : Nat
  exponent : Int
deriving DecidableEq, Repr, Inhabited

/-- A decimal column value. -/
inductive Numeric where
  | finite (d : Decimal)
  | infinite (negative : Bool)
  | nan
deriving DecidableEq, Repr, Inhabited

namespace Decimal

/-- The number of digits of the coefficient. -/
def precision (d : Decimal) : Nat :=
  digitCount d.coefficient

/-- The number of digits after the point; negative when zeros are left to the exponent. -/
def scale (d : Decimal) : Int :=
  -d.exponent

/-- The number of digits before the point; negative when zeros follow the point. -/
def integerDigits (d : Decimal) : Int :=
  d.precision - d.scale

/-- A coefficient without its last `drop` digits, rounded half up. -/
def dropHalfUp (coefficient drop : Nat) : Nat :=
  if drop = 0 then coefficient
  else if digitCount coefficient < drop then 0
  else (coefficient + 5 * Nat.pow 10 (drop - 1)) / Nat.pow 10 drop

/-- The decimal with at most `scale` digits after the point, the rest rounded half away from zero. -/
def roundTo (d : Decimal) (scale : Int) : Decimal :=
  if d.scale ≤ scale then d
  else
    { d with
      coefficient := dropHalfUp d.coefficient (d.scale - scale).toNat
      exponent := -scale }

/-- A coefficient and exponent with the final zeros of the coefficient moved to the exponent. -/
def stripZeros (coefficient : Nat) (exponent : Int) : Nat × Int :=
  if coefficient = 0 then (0, 0)
  else if coefficient % 10 = 0 then stripZeros (coefficient / 10) (exponent + 1)
  else (coefficient, exponent)

/-- Equality of the numbers that two decimals stand for. -/
def equal (a b : Decimal) : Bool :=
  stripZeros a.coefficient a.exponent == stripZeros b.coefficient b.exponent &&
    (a.negative == b.negative || a.coefficient == 0)

/-- The digits with the point in place, without an exponent. -/
def plain (d : Decimal) : String :=
  let digits := Nat.toDigits 10 d.coefficient
  let size :=
    if 0 ≤ d.exponent then
      if d.coefficient = 0 then ['0']
      else digits ++ List.replicate d.exponent.toNat '0'
    else
      let places := (-d.exponent).toNat
      -- as many zeros before the digits as it takes to have one before the point
      let padded := List.replicate (places + 1 - digits.length) '0' ++ digits
      padded.take (padded.length - places) ++ '.' :: padded.drop (padded.length - places)
  String.ofList (if d.negative then '-' :: size else size)

end Decimal

namespace Numeric

/-- The text of a value, without an exponent. -/
def plain : Numeric → String
  | .finite d => d.plain
  | .infinite negative => if negative then "-Infinity" else "Infinity"
  | .nan => "NaN"

/-- Equality of numbers; a NaN equals nothing. -/
def equal : Numeric → Numeric → Bool
  | .finite a, .finite b => a.equal b
  | .infinite a, .infinite b => a == b
  | _, _ => false

end Numeric

end Sluice
