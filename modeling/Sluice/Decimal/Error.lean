import Sluice.Decimal.Basic

/-!
# Decimal errors

What can be wrong with the bounds of a `DECIMAL(p,s)` type, with a value that should fit them, and
with the text of a value.
-/

namespace Sluice

/-- Why a decimal type or value was rejected. -/
inductive DecimalError where
  | precisionTooSmall (precision scale : Int)
  | negativeScale (precision scale : Int)
  | precisionLessThanScale (precision scale : Int)
  | outOfRange (value : Numeric) (precision scale : Int)
  | invalidValue (text : String)
deriving DecidableEq, Repr

/-- The spelling of a decimal type. -/
def decimalTypeName (precision scale : Int) : String :=
  "DECIMAL(" ++ toString precision ++ "," ++ toString scale ++ ")"

/-- What the error says. -/
def DecimalError.message : DecimalError → String
  | .precisionTooSmall p s => "DECIMAL precision must be >= 1: " ++ decimalTypeName p s
  | .negativeScale p s => "DECIMAL scale must be >= 0: " ++ decimalTypeName p s
  | .precisionLessThanScale p s => "DECIMAL precision must be >= scale: " ++ decimalTypeName p s
  | .outOfRange value p s =>
    "Decimal precision/scale for value '" ++ value.plain ++
      "' does not fit into destination precision/scale: " ++ toString p ++ "," ++ toString s
  | .invalidValue text => "invalid DECIMAL value '" ++ text ++ "'"

end Sluice
