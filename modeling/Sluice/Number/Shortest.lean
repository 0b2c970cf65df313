import Sluice.Number.Binary64

/-!
# The fewest digits that read back

Among the decimal texts that a reader would round to a given binary number, the shortest ones are
those with the fewest digits, and of these the one nearest to the number is written. The search
walks the decimal grids from coarse to fine and tests the two neighbours of the number on each.
How an exact tie between the neighbours goes, and how the digits are laid out, is decided by the
format that writes them.
-/

namespace Sluice.Number

/-- How a number halfway between two candidates is written. -/
inductive Tie where
  | up
  | toEven
deriving DecidableEq, Repr

/-- Digits `d₁ d₂ …` and the place of the point: the value is `0.d₁d₂… * 10 ^ point`. -/
structure DecimalDigits where
  digits : List Char
  point : Int
deriving DecidableEq, Repr

/-- A positive number `value / unit` between the ends of the interval that rounds to it. -/
structure RoundingInterval where
  low : Nat
  value : Nat
  high : Nat
  unit : Nat
  closed : Bool
deriving DecidableEq, Repr

namespace RoundingInterval

/-- The interval of `significand * 2 ^ exponent`: half a step to each side, a quarter below a
power of two; its ends round to the number when the significand is even. -/
def ofSignificand (significand : Nat) (exponent : Int) : RoundingInterval :=
  let low :=
    -- below a power of two the steps are half as large
    if significand = Nat.pow 2 52 ∧ Binary64.leastExponent < exponent then 4 * significand - 1
    else 4 * significand - 2
  let scale (n : Nat) : Nat := if 2 ≤ exponent then n * Nat.pow 2 (exponent - 2).toNat else n
  { low := scale low
    value := scale (4 * significand)
    high := scale (4 * significand + 2)
    unit := if 2 ≤ exponent then 1 else Nat.pow 2 (2 - exponent).toNat
    closed := significand % 2 == 0 }

/-- The interval in units of `10 ^ k`. -/
def onGrid (i : RoundingInterval) (k : Int) : RoundingInterval :=
  if 0 ≤ k then { i with unit := i.unit * Nat.pow 10 k.toNat }
  else
    let f := Nat.pow 10 (-k).toNat
    { i with low := i.low * f, value := i.value * f, high := i.high * f }

/-- Whether `n` units lie in the interval. -/
def admits (i : RoundingInterval) (n : Nat) : Bool :=
  let x := n * i.unit
  if i.closed then i.low ≤ x && x ≤ i.high else i.low < x && x < i.high

/-- The grid point nearest to the value, if a neighbour of the value lies in the interval. -/
def nearestPoint? (tie : Tie) (i : RoundingInterval) : Option Nat :=
  let below := i.value / i.unit
  let above := below + 1
  match i.admits below, i.admits above with
  | false, false => none
  | true, false => some below
  | false, true => some above
  -- both neighbours are in the interval, so the nearer one is taken
  | true, true =>
    let toBelow := i.value - below * i.unit
    let toAbove := above * i.unit - i.value
    if toBelow < toAbove then some below
    else if toAbove < toBelow then some above
    else match tie with
      | .up => some above
      | .toEven => if below % 2 = 0 then some below else some above

end RoundingInterval

/-- The exponent of the leading digit of `value / unit`, searched upward from `k`. -/
def leadingExponent (value unit : Nat) : Nat → Int → Int
  | 0, k => k
  | steps + 1, k =>
    let reached :=
      if 0 ≤ k + 1 then unit * Nat.pow 10 (k + 1).toNat ≤ value
      else unit ≤ value * Nat.pow 10 (-(k + 1)).toNat
    if reached then leadingExponent value unit steps (k + 1) else k

/-- The first grid, from `10 ^ k` downward, on which the interval has a point. -/
def firstPoint (tie : Tie) (i : RoundingInterval) : Nat → Int → Nat × Int
  | 0, k => ((i.onGrid k).value / (i.onGrid k).unit, k)
  | steps + 1, k =>
    match (i.onGrid k).nearestPoint? tie with
    | some n => (n, k)
    | none => firstPoint tie i steps (k - 1)

/-- The shortest digits of the positive number `significand * 2 ^ exponent`. -/
def shortestDigits (tie : Tie) (significand : Nat) (exponent : Int) : DecimalDigits :=
  let i := RoundingInterval.ofSignificand significand exponent
  let (n, k) := firstPoint tie i 17 (leadingExponent i.value i.unit 640 (-330))
  let all := Nat.toDigits 10 n
  let kept := (all.reverse.dropWhile (· == '0')).reverse
  { digits := kept, point := all.length + k }

namespace DecimalDigits

/-- The digits with the point in place, without an exponent; `fraction` follows a whole number. -/
def positional (d : DecimalDigits) (fraction : String) : String :=
  if d.point ≤ 0 then
    "0." ++ String.ofList (List.replicate (-d.point).toNat '0' ++ d.digits)
  else if (d.digits.length : Int) ≤ d.point then
    String.ofList (d.digits ++ List.replicate (d.point - d.digits.length).toNat '0') ++ fraction
  else
    String.ofList (d.digits.take d.point.toNat) ++ "." ++
      String.ofList (d.digits.drop d.point.toNat)

/-- One digit before the point and a power of ten after `e`, with its sign. -/
def scientific (d : DecimalDigits) : String :=
  let mantissa := match d.digits with
    | [] => "0"
    | [c] => c.toString
    | c :: rest => c.toString ++ "." ++ String.ofList rest
  mantissa ++ (if 0 < d.point then "e+" else "e") ++ toString (d.point - 1)

end DecimalDigits

/-- The text of a number in a row: the shortest digits, ties upward, never an exponent. -/
def Binary64.plain : Binary64 → String
  | .nan => "NaN"
  | .infinite negative => if negative then "-inf" else "inf"
  | .finite negative m e =>
    let size := if m = 0 then "0" else (shortestDigits .up m e).positional ""
    if negative then "-" ++ size else size

end Sluice.Number
