import Sluice.Row.Basic
import Sluice.SqlType.Basic

/-!
# Bringing rows into bounds

Every decimal of a row is brought into the bounds that the row type declares where it stands: at a
field, an array element or a map value. Map keys, values whose type does not match, and fields
beyond the row type stay as they are. The first decimal that does not fit fails the whole row.
-/

namespace Sluice

mutual

/-- Brings the decimals of a value into the bounds that a type declares. -/
def Datum.enforce : Datum → SqlType → Except DecimalError Datum
  | .decimal n, .primitive (.decimal precision scale) => (n.enforce precision scale).map .decimal
  | .array items, .array element => (Datum.enforceItems items element).map .array
  | .map entries, .map _ value => (Datum.enforceEntries entries value).map .map
  | .struct datums, .struct fields => (Datum.enforceFields datums fields).map .struct
  | d, _ => .ok d

/-- Brings the elements of an array into bounds, first to last. -/
def Datum.enforceItems : List Datum → SqlType → Except DecimalError (List Datum)
  | [], _ => .ok []
  | d :: rest, element => do
    let d ← d.enforce element
    return d :: (← Datum.enforceItems rest element)

/-- Brings the values of a map into bounds, first to last. -/
def Datum.enforceEntries : List (Datum × Datum) → SqlType →
    Except DecimalError (List (Datum × Datum))
  | [], _ => .ok []
  | (key, d) :: rest, value => do
    let d ← d.enforce value
    return (key, d) :: (← Datum.enforceEntries rest value)

/-- Brings the fields of a struct into bounds, first to last; fields beyond the type stay. -/
def Datum.enforceFields : List Datum → List (String × SqlType) → Except DecimalError (List Datum)
  | [], _ => .ok []
  | datums, [] => .ok datums
  | d :: rest, (_, type) :: fields => do
    let d ← d.enforce type
    return d :: (← Datum.enforceFields rest fields)

end

/-- Brings the decimals of a row into the bounds of its columns. -/
def Row.enforce (row : Row) (type : RowType) : Except DecimalError Row :=
  Datum.enforceFields row type

end Sluice
