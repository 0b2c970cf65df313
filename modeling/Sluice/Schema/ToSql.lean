import Sluice.Schema.LogicalDecimal
import Sluice.SqlType.Basic
import Sluice.Text.Uppercase

/-!
# From schemas to SQL types

A record's schema becomes a row type. Integer widths collapse, a byte schema must carry decimals,
and field names are put in upper case. Below the root a field whose schema has no SQL type is left
out, so that one exotic column does not make a whole topic unusable; anywhere else the failure
counts.

## Main definitions

* `Unsupported`: why a schema has no SQL type.
* `Schema.toSqlType`, `Schema.toRowType`: the type of a schema, and of a record.
-/

namespace Sluice

/-- Why a schema has no SQL type. -/
inductive Unsupported where
  | incomplete (kind : SchemaKind)
  | noSqlType (kind : SchemaKind)
  | mapKey (kind : SchemaKind)
  | noDecimalParameters (name : String)
  | noDecimalScale (name : String)
  | scaleNotInteger (name text : String)
  | precisionNotInteger (name text : String)
  | decimalBounds (name : String) (e : DecimalError)
deriving DecidableEq, Repr

/-- What is wrong with the parameters of a decimal schema. -/
private def invalidParameters (name detail : String) : String :=
  "Invalid decimal parameters: " ++ name ++ ": " ++ detail

/-- What the failure says. -/
def Unsupported.message : Unsupported → String
  | .incomplete kind => "Incomplete " ++ kind.name ++ " schema"
  | .noSqlType kind => "Unsupported type: " ++ kind.name
  | .mapKey kind => "Unsupported type for map key: " ++ kind.name
  | .noDecimalParameters name => "Unknown decimal parameters: " ++ name
  | .noDecimalScale name => "Unknown decimal scale: " ++ name
  | .scaleNotInteger name text =>
    invalidParameters name ("scale '" ++ text ++ "' is not an integer")
  | .precisionNotInteger name text =>
    invalidParameters name ("precision '" ++ text ++ "' is not an integer")
  | .decimalBounds name e => invalidParameters name e.message

/-- Why a schema is no row type. -/
inductive RowTypeError where
  | notStructured (kind : SchemaKind)
  | unsupportedRoot (cause : Unsupported)
deriving DecidableEq, Repr

/-- What the error says. -/
def RowTypeError.message : RowTypeError → String
  | .notStructured kind => "stream/table schema must be structured, but found " ++ kind.name
  | .unsupportedRoot cause => "Unsupported type at root of schema: " ++ cause.message

namespace Schema

/-- The decimal type of a schema that carries decimals. -/
def toDecimalType (s : Schema) : Except Unsupported Primitive :=
  let name := s.name.getD ""
  if s.parameters.isNone then .error (.noDecimalParameters name)
  else
    match s.scaleText? with
    | none => .error (.noDecimalScale name)
    | some scaleText =>
      match Text.readInt32? scaleText.toList with
      | none => .error (.scaleNotInteger name scaleText)
      | some scale =>
        match s.precisionText? with
        -- without a precision there is a default, but not without a scale
        | none => (Primitive.ofBounds defaultPrecision scale).mapError (.decimalBounds name)
        | some precisionText =>
          match Text.readInt32? precisionText.toList with
          | none => .error (.precisionNotInteger name precisionText)
          | some precision => (Primitive.ofBounds precision scale).mapError (.decimalBounds name)

/-- The type of a schema without schemas inside. -/
def toPrimitive (s : Schema) : Except Unsupported Primitive :=
  match s.kind with
  | .int8 | .int16 | .int32 => .ok .integer
  | .int64 => .ok .bigint
  | .float32 | .float64 => .ok .double
  | .boolean => .ok .boolean
  | .string => .ok .string
  | .bytes => if s.isDecimal then s.toDecimalType else .error (.noSqlType .bytes)
  | kind => .error (.noSqlType kind)

/-- Whether values of a schema may be keys of a map. -/
def mayBeKey (s : Schema) : Bool :=
  match s.kind with
  | .int8 | .int16 | .int32 | .int64 | .boolean | .string => true
  | .bytes => s.isDecimal
  | _ => false

/-- The type of the keys of a map. -/
def toKeyType (s : Schema) : Except Unsupported Primitive :=
  if s.mayBeKey then s.toPrimitive else .error (.mapKey s.kind)

mutual

/-- The SQL type of a schema. -/
def toSqlType : Schema → Except Unsupported SqlType
  | ⟨.array, _, _, _, _, _, none⟩ => .error (.incomplete .array)
  | ⟨.array, _, _, _, _, _, some element⟩ => element.toSqlType.map .array
  | ⟨.map, _, _, _, _, none, _⟩ => .error (.incomplete .map)
  | ⟨.map, _, _, _, _, some _, none⟩ => .error (.incomplete .map)
  | ⟨.map, _, _, _, _, some key, some value⟩ => do
    let key ← key.toKeyType
    return .map key (← value.toSqlType)
  | ⟨.struct, _, _, _, fields, _, _⟩ => .ok (.struct (fieldsToSqlTypes fields))
  | s => s.toPrimitive.map .primitive

/-- The fields that have SQL types, in order and in upper case. -/
def fieldsToSqlTypes : List (String × Schema) → List (String × SqlType)
  | [] => []
  | (name, schema) :: rest =>
    match schema.toSqlType with
    | .ok type => (Text.uppercase name, type) :: fieldsToSqlTypes rest
    | .error _ => fieldsToSqlTypes rest

end

/-- The row type of the schema of a record. -/
def toRowType (s : Schema) : Except RowTypeError RowType :=
  match s.toSqlType with
  | .ok (.struct row) => .ok row
  | .ok _ => .error (.notStructured s.kind)
  | .error cause => .error (.unsupportedRoot cause)

end Schema

end Sluice
