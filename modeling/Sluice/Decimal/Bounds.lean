import Sluice.Decimal.Error

/-!
# Decimal bounds

A `DECIMAL(p,s)` column holds numbers with at most `s` digits after the point and `p - s` before
it. A value is brought into bounds by rounding half away from zero, and only if its integer part
fits both before and after rounding: `99.995` rounds to `100.00`, which does not fit
`DECIMAL(4,2)`.
-/

namespace Sluice

/-- Checks that a precision and a scale describe a type. -/
def checkDecimalBounds (precision scale : Int) : Except DecimalError Unit :=
  if precision < 1 then .error (.precisionTooSmall precision scale)
  else if scale < 0 then .error (.negativeScale precision scale)
  else if precision < scale then .error (.precisionLessThanScale precision scale)
  else .ok ()

/-- The bounds that describe a type. -/
def ValidDecimalBounds (precision scale : Int) : Prop :=
  1 ≤ precision ∧ 0 ≤ scale ∧ scale ≤ precision

/-- The check passes for exactly the bounds that describe a type. -/
theorem checkDecimalBounds_eq_ok_iff {p s : Int} :
    checkDecimalBounds p s = .ok () ↔ ValidDecimalBounds p s := by
  unfold checkDecimalBounds ValidDecimalBounds
  grind

namespace Numeric

/-- Brings a value into the bounds of a decimal type. -/
def enforce (value : Numeric) (precision scale : Int) : Except DecimalError Numeric := do
  checkDecimalBounds precision scale
  match value with
  | .finite d =>
    let rounded := d.roundTo scale
    -- the digits are counted before rounding and after it, which may bring in a new one
    if precision - scale < d.integerDigits ∨ precision - scale < rounded.integerDigits then
      .error (.outOfRange value precision scale)
    else .ok (.finite rounded)
  | _ => .error (.outOfRange value precision scale)

/-- Brings a value that may be absent into the bounds of a decimal type; an absent one passes
whatever the bounds. -/
def enforce? (value : Option Numeric) (precision scale : Int) :
    Except DecimalError (Option Numeric) :=
  match value with
  | none => .ok none
  | some n => (n.enforce precision scale).map some

end Numeric

end Sluice
