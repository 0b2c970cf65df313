import Sluice.Avro.Convert
import Sluice.SqlType.Tagged

/-!
# Schemas and types as they are held

The translations between schemas and types, for types that are held with tags. From a schema come
types that are put together here; to a schema go types of any origin, whose tags and parameters are
relied on.

## Main definitions

* `Schema.toTaggedType`, `Schema.toTaggedRow`: the type of a schema, and of a record.
* `TaggedType.toSchema`, `TaggedRow.toSchema`: the schema of a type, and of the records of a row.
-/

namespace Sluice

/-! ## From schemas -/

namespace Schema

/-- The decimal type of a schema that carries decimals. -/
def toTaggedDecimal (s : Schema) : Except Unsupported TaggedPrimitive :=
  let name := s.name.getD ""
  if s.parameters.isNone then .error (.noDecimalParameters name)
  else
    match s.scaleText? with
    | none => .error (.noDecimalScale name)
    | some scaleText =>
      match Text.readInt32? scaleText.toList with
      | none => .error (.scaleNotInteger name scaleText)
      | some scale =>
        match s.precisionText? with
        | none => (TaggedPrimitive.ofBounds defaultPrecision scale).mapError (.decimalBounds name)
        | some precisionText =>
          match Text.readInt32? precisionText.toList with
          | none => .error (.precisionNotInteger name precisionText)
          | some precision =>
            (TaggedPrimitive.ofBounds precision scale).mapError (.decimalBounds name)

/-- The type of a schema without schemas inside. -/
def toTaggedPrimitive (s : Schema) : Except Unsupported TaggedPrimitive :=
  match s.kind with
  | .int8 | .int16 | .int32 => .ok (.unparameterized .integer)
  | .int64 => .ok (.unparameterized .bigint)
  | .float32 | .float64 => .ok (.unparameterized .double)
  | .boolean => .ok (.unparameterized .boolean)
  | .string => .ok (.unparameterized .string)
  | .bytes => if s.isDecimal then s.toTaggedDecimal else .error (.noSqlType .bytes)
  | kind => .error (.noSqlType kind)

/-- The type of the keys of a map. -/
def toTaggedKey (s : Schema) : Except Unsupported TaggedPrimitive :=
  if s.mayBeKey then s.toTaggedPrimitive else .error (.mapKey s.kind)

mutual

/-- The type of a schema. -/
def toTaggedType : Schema → Except Unsupported TaggedType
  | ⟨.array, _, _, _, _, _, none⟩ => .error (.incomplete .array)
  | ⟨.array, _, _, _, _, _, some element⟩ => element.toTaggedType.map .array
  | ⟨.map, _, _, _, _, none, _⟩ => .error (.incomplete .map)
  | ⟨.map, _, _, _, _, some _, none⟩ => .error (.incomplete .map)
  | ⟨.map, _, _, _, _, some key, some value⟩ => do
    let key ← key.toTaggedKey
    return .map key (← value.toTaggedType)
  | ⟨.struct, _, _, _, fields, _, _⟩ => .ok (.struct (fieldsToTaggedTypes fields))
  | s => s.toTaggedPrimitive.map .primitive

/-- The fields that have types, in order and in upper case. -/
def fieldsToTaggedTypes : List (String × Schema) → List (String × TaggedType)
  | [] => []
  | (name, schema) :: rest =>
    match schema.toTaggedType with
    | .ok type => (Text.uppercase name, type) :: fieldsToTaggedTypes rest
    | .error _ => fieldsToTaggedTypes rest

end

/-- The row type of the schema of a record. -/
def toTaggedRow (s : Schema) : Except RowTypeError TaggedRow :=
  match s.toTaggedType with
  | .ok (.struct row) => .ok row
  | .ok _ => .error (.notStructured s.kind)
  | .error cause => .error (.unsupportedRoot cause)

end Schema

/-- The row type of an Avro text. -/
def Avro.readTaggedRow (text : String) : Except Avro.Error TaggedRow := do
  let schema ← readSchema text
  schema.toTaggedRow.mapError .rowType

/-! ## To schemas -/

/-- Why there is no schema of a type. -/
inductive NoSchema where
  | breach (b : Breach)
  | decimal (e : DecimalError)
deriving DecidableEq, Repr

/-- The schema of a primitive type. A decimal without parameters has the bounds of zeros, which are
refused. -/
def TaggedPrimitive.toSchema (p : TaggedPrimitive) : Except NoSchema Schema :=
  match p.tag with
  | .boolean => .ok (Schema.leaf .boolean).asOptional
  | .integer => .ok (Schema.leaf .int32).asOptional
  | .bigint => .ok (Schema.leaf .int64).asOptional
  | .double => .ok (Schema.leaf .float64).asOptional
  | .string => .ok (Schema.leaf .string).asOptional
  | .decimal => do
    let precision ← p.precision.mapError .breach
    let scale ← p.scale.mapError .breach
    (Schema.decimal (precision.getD 0) (scale.getD 0)).mapError .decimal
  -- a tag that no primitive type has
  | .array | .map | .struct => .error (.breach (.impossibleTag p.tag))

mutual

/-- The schema of a type. -/
def TaggedType.toSchema : TaggedType → Except NoSchema Schema
  | .primitive p => p.toSchema
  | .array element => do
    return (Schema.array (← element.toSchema)).asOptional
  | .map key value => do
    let key ← key.toSchema
    return (Schema.map key (← value.toSchema)).asOptional
  | .struct fields => do
    return (Schema.struct (← TaggedType.fieldsToSchemas fields)).asOptional

/-- The schemas of fields, in order and under their own names. -/
def TaggedType.fieldsToSchemas :
    List (String × TaggedType) → Except NoSchema (List (String × Schema))
  | [] => .ok []
  | (name, type) :: rest => do
    let schema ← type.toSchema
    return (name, schema) :: (← TaggedType.fieldsToSchemas rest)

end

/-- The schema of the records of a row type. -/
def TaggedRow.toSchema (row : TaggedRow) : Except NoSchema Schema := do
  return Schema.struct (← TaggedType.fieldsToSchemas row)

/-- A primitive type with the tag of arrays can be held, but has no schema. -/
example :
    TaggedType.toSchema (.primitive ⟨.array, none⟩) =
      .error (.breach (.impossibleTag .array)) := rfl

end Sluice
