import Sluice.Decimal.Error
import Sluice.Text.Integer

/-!
# Reading decimals

A decimal is an optional sign, digits with at most one point among them, and an optional exponent.
A value keeps at most `greatestPrecision` digits and its exponent stays within the bounds below; a
text that would need a nonzero digit dropped to fit is rejected, while zeros are dropped freely
and the exponent of a zero is moved to the nearest bound.
-/

namespace Sluice.Decimal

/-- The number of digits a value can hold. -/
def greatestPrecision : Nat := 81

/-- The greatest exponent of the leading digit of a value. -/
def greatestExponent : Int := 999999999

/-- The least exponent of the last digit of a value. -/
def leastExponent : Int := -1000000079

/-- The exponent that stands for every written exponent too long to be read. -/
def unboundedExponent : Nat := 1999999998

/-- The size of a written exponent. -/
def exponentSize (digits : List Char) : Nat :=
  let significant := digits.dropWhile (· == '0')
  let tooLong := 10 < significant.length ||
    (significant.length == 10 && significant.head? != some '1')
  if tooLong then unboundedExponent else Text.natOfDigits significant

/-- Reads an exponent: nothing at all, or a mark, an optional sign and digits. -/
def readExponent? : List Char → Option Int
  | [] => some 0
  | _ :: '-' :: ds => digits? ds |>.map fun n => -(n : Int)
  | _ :: '+' :: ds => digits? ds |>.map fun n => (n : Int)
  | _ :: ds => digits? ds |>.map fun n => (n : Int)
where
  /-- The size written by one or more digits. -/
  digits? (ds : List Char) : Option Nat :=
    if ds.isEmpty || !ds.all Char.isDigit then none else some (exponentSize ds)

/-- Drops the last `drop` digits of a coefficient if they are all zeros. -/
def dropZeros? (coefficient drop : Nat) : Option Nat :=
  if drop = 0 ∨ coefficient = 0 then some coefficient
  else if digitCount coefficient ≤ drop then none
  else if coefficient % Nat.pow 10 drop = 0 then some (coefficient / Nat.pow 10 drop)
  else none

/-- The value of a coefficient and an exponent, if one within the bounds is equal to it. -/
def fit? (negative : Bool) (coefficient : Nat) (exponent : Int) : Option Decimal := do
  if coefficient = 0 then
    -- a zero is never out of bounds: its exponent is brought within them
    return ⟨negative, 0, max leastExponent (min greatestExponent exponent)⟩
  let excess := max (digitCount coefficient - greatestPrecision) (leastExponent - exponent).toNat
  let kept ← dropZeros? coefficient excess
  -- the zeros that are dropped are made up for by the exponent
  let exponent := exponent + excess
  if greatestExponent < exponent + digitCount kept - 1 then none
  return ⟨negative, kept, exponent⟩

/-- Reads a decimal without its sign. -/
def readUnsigned? (negative : Bool) (cs : List Char) : Option Decimal := do
  let isMark (c : Char) : Bool := c == 'e' || c == 'E'
  let mantissa := cs.takeWhile (!isMark ·)
  let whole := mantissa.takeWhile (· != '.')
  let fraction := (mantissa.dropWhile (· != '.')).drop 1
  let digits := whole ++ fraction
  if digits.isEmpty || !digits.all Char.isDigit then none
  let exponent ← readExponent? (cs.dropWhile (!isMark ·))
  -- the digits after the point count as so many negative powers
  fit? negative (Text.natOfDigits digits) (exponent - fraction.length)

/-- Reads a decimal from its characters. -/
def readChars? : List Char → Option Decimal
  | '-' :: cs => readUnsigned? true cs
  | '+' :: cs => readUnsigned? false cs
  | cs => readUnsigned? false cs

/-- Reads a decimal. -/
def read (text : String) : Except DecimalError Decimal :=
  match readChars? text.toList with
  | some d => .ok d
  | none => .error (.invalidValue text)

end Sluice.Decimal
