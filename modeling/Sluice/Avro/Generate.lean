import Sluice.Avro.Error
import Sluice.Avro.Name
import Sluice.Schema.OfSql

/-!
# Generated Avro schemas

The Avro record of a struct schema. Every field is a union of `null` and its type and defaults to
`null`. A nested record is named after its field and lives in a namespace beneath its parent. Map
keys are always strings. Members stand in the order of their names, so that a generated value is
the value its own text reads as.
-/

namespace Sluice.Avro

open Json

/-- The union of `null` and a type. -/
def nullable (type : Value) : Value :=
  .array [.string "null", type]

/-- A field of a generated record. -/
def field (name : String) (type : Value) : Value :=
  .object [("default", .null), ("name", .string name), ("type", nullable type)]

/-- A generated record. -/
def record (name outer : String) (fields : List Value) : Value :=
  .object [
    ("fields", .array fields),
    ("name", .string name),
    ("namespace", .string outer),
    ("type", .string "record")]

/-- A generated array. -/
def array (items : Value) : Value :=
  .object [("items", nullable items), ("type", .string "array")]

/-- A generated map. -/
def map (values : Value) : Value :=
  .object [("type", .string "map"), ("values", nullable values)]

/-- A generated decimal. -/
def decimal (precision scale : Int) : Value :=
  .object [
    ("logicalType", .string "decimal"),
    ("precision", Value.integer precision),
    ("scale", Value.integer scale),
    ("type", .string "bytes")]

/-- The decimal of a schema that carries decimals. -/
def decimalOf (s : Schema) : Except Error Value :=
  match s.precision?, s.scale? with
  | some precision, some scale => do
    (checkDecimalBounds precision scale).mapError .decimal
    return decimal precision scale
  | _, _ => .error (.unsupportedKind .bytes)

/-- The type of a schema without schemas inside. -/
def leafOf (s : Schema) : Except Error Value :=
  match s.kind with
  | .boolean => .ok (.string "boolean")
  | .int32 => .ok (.string "int")
  | .int64 => .ok (.string "long")
  | .float64 => .ok (.string "double")
  | .string => .ok (.string "string")
  | .bytes => if s.isDecimal then decimalOf s else .error (.unsupportedKind .bytes)
  | kind => .error (.unsupportedKind kind)

mutual

/-- The type of a schema; a record in it is called `name` and lives in the namespace `outer`. -/
def typeOf : Schema → (name outer : String) → Except Error Value
  | ⟨.array, _, _, _, _, _, none⟩, _, _ => .error (.unsupportedKind .array)
  | ⟨.array, _, _, _, _, _, some element⟩, name, outer => (typeOf element name outer).map array
  | ⟨.map, _, _, _, _, _, none⟩, _, _ => .error (.unsupportedKind .map)
  | ⟨.map, _, _, _, _, _, some value⟩, name, outer => (typeOf value name outer).map map
  | ⟨.struct, _, _, _, fields, _, _⟩, name, outer =>
    (fieldsOf fields (joinName outer name)).map (record name outer)
  | s, _, _ => leafOf s

/-- The fields of a record whose nested records live in the namespace `inner`. -/
def fieldsOf : List (String × Schema) → (inner : String) → Except Error (List Value)
  | [], _ => .ok []
  | (fieldName, schema) :: rest, inner => do
    let name := cleanName fieldName
    let type ← typeOf schema name inner
    return field name type :: (← fieldsOf rest inner)

end

/-- The Avro record of a struct schema, under the name given. -/
def generate (s : Schema) (name : String) : Except Error Value :=
  if s.kind = .struct then typeOf s (cleanName name) defaultNamespace
  else .error (.rowType (.notStructured s.kind))

/-- The Avro record of a row type. -/
def generateRow (row : RowType) (name : String) : Except Error Value := do
  let schema ← row.toSchema.mapError .decimal
  generate schema name

end Sluice.Avro
