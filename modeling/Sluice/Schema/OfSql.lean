import Sluice.Schema.LogicalDecimal
import Sluice.SqlType.Basic

/-!
# From SQL types to schemas

A row type becomes a required struct; everything inside it is optional, as SQL values may always
be absent. Each SQL type has one schema, so this direction fails only for a decimal type whose
bounds are invalid.
-/

namespace Sluice

/-- The schema of a primitive type. -/
def Primitive.toSchema : Primitive → Except DecimalError Schema
  | .boolean => .ok (Schema.leaf .boolean).asOptional
  | .integer => .ok (Schema.leaf .int32).asOptional
  | .bigint => .ok (Schema.leaf .int64).asOptional
  | .double => .ok (Schema.leaf .float64).asOptional
  | .string => .ok (Schema.leaf .string).asOptional
  | .decimal precision scale => Schema.decimal precision scale

mutual

/-- The schema of a type. -/
def SqlType.toSchema : SqlType → Except DecimalError Schema
  | .primitive p => p.toSchema
  | .array element => do
    return (Schema.array (← element.toSchema)).asOptional
  | .map key value => do
    let key ← key.toSchema
    return (Schema.map key (← value.toSchema)).asOptional
  | .struct fields => do
    return (Schema.struct (← SqlType.fieldsToSchemas fields)).asOptional

/-- The schemas of fields, in order and under their own names. -/
def SqlType.fieldsToSchemas : List (String × SqlType) → Except DecimalError (List (String × Schema))
  | [] => .ok []
  | (name, type) :: rest => do
    let schema ← type.toSchema
    return (name, schema) :: (← SqlType.fieldsToSchemas rest)

end

/-- The schema of the records of a row type. -/
def RowType.toSchema (row : RowType) : Except DecimalError Schema := do
  return Schema.struct (← SqlType.fieldsToSchemas row)

end Sluice
