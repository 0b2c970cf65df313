import Sluice.Json.Printer
import Sluice.Schema.ToSql

/-!
# Avro errors

A schema may have no Avro form, an Avro schema may use what structured schemas cannot express, or
it may not be an Avro schema at all.
-/

namespace Sluice.Avro

open Json

/-- What structured schemas cannot express. -/
inductive Inexpressible where
  | null
  | recursive (name : String)
  | union (variants : List Value)
deriving Repr

/-- Why a value is not an Avro schema. -/
inductive Defect where
  | notJson
  | unexpected (v : Value)
  | unknownType (name : String)
  | untyped
  | unnamed
  | duplicate (name : String)
  | recordWithoutFields (name : String)
  | fieldWithoutName
  | fieldWithoutType (name : String)
  | arrayWithoutItems
  | mapWithoutValues
deriving Repr

/-- What can go wrong between structured schemas and Avro. -/
inductive Error where
  | unsupportedKind (kind : SchemaKind)
  | inexpressible (what : Inexpressible)
  | invalid (defect : Defect)
  | rowType (e : RowTypeError)
  | decimal (e : DecimalError)
deriving Repr

/-- The Avro type that cannot be expressed. -/
def Inexpressible.message : Inexpressible → String
  | .null => "null"
  | .recursive name => "recursive type " ++ name
  | .union variants => "union " ++ (Value.array variants).print

/-- What the defect is. -/
def Defect.message : Defect → String
  | .notJson => "not JSON"
  | .unexpected v => "unexpected schema " ++ v.print
  | .unknownType name => "unknown type " ++ name
  | .untyped => "schema object without type"
  | .unnamed => "named type without name"
  | .duplicate name => "duplicate definition of " ++ name
  | .recordWithoutFields name => "record " ++ name ++ " has no fields"
  | .fieldWithoutName => "field without name"
  | .fieldWithoutType name => "field " ++ name ++ " has no type"
  | .arrayWithoutItems => "array without items"
  | .mapWithoutValues => "map without values"

/-- What the error says. -/
def Error.message : Error → String
  | .unsupportedKind kind => "Unsupported AVRO type: " ++ kind.name
  | .inexpressible what => "Unsupported Avro type: " ++ what.message
  | .invalid defect => "invalid Avro schema: " ++ defect.message
  | .rowType e => e.message
  | .decimal e => e.message

end Sluice.Avro
