import Sluice.Json.Decode
import Sluice.Schema.Basic

/-!
# Schemas in JSON

A schema is stored as a record of all its parts. An absent part is `null`, and each parameter is a
pair of its key and its value.
-/

namespace Sluice

open Json

/-- The stored name of a kind. -/
def SchemaKind.title : SchemaKind → String
  | int8 => "Int8"
  | int16 => "Int16"
  | int32 => "Int32"
  | int64 => "Int64"
  | float32 => "Float32"
  | float64 => "Float64"
  | boolean => "Boolean"
  | string => "String"
  | bytes => "Bytes"
  | array => "Array"
  | map => "Map"
  | struct => "Struct"

namespace Schema

/-! ## Writing -/

/-- The stored form of a parameter. -/
def parameterToJson (p : String × String) : Value :=
  .array [.string p.1, .string p.2]

mutual

/-- The stored form of a schema. -/
def toJson : Schema → Value
  | ⟨kind, optional, name, parameters, fields, key, value⟩ =>
    .object [
      ("kind", .string kind.title),
      ("optional", .bool optional),
      ("name", Value.ofString? name),
      ("parameters", Value.ofOption (fun ps => .array (ps.map parameterToJson)) parameters),
      ("fields", .array (fieldsToJson fields)),
      ("key", optionToJson key),
      ("value", optionToJson value)]

/-- The stored forms of fields. -/
def fieldsToJson : List (String × Schema) → List Value
  | [] => []
  | (name, schema) :: rest =>
    .object [("name", .string name), ("schema", schema.toJson)] :: fieldsToJson rest

/-- The stored form of a schema that may be missing. -/
def optionToJson : Option Schema → Value
  | none => .null
  | some s => s.toJson

end

/-! ## Reading -/

/-- Reads a kind. -/
def kindOfDocument? (d : Document) : Option SchemaKind := do
  let title ← d.tag?
  SchemaKind.all.find? (·.title == title)

/-- Reads a parameter. -/
def parameterOfDocument? (d : Document) : Option (String × String) := do
  match ← d.array? with
  | [key, value] => return (← key.string?, ← value.string?)
  | _ => none

/-- Reads a field, given a reader of its schema. -/
def fieldOfDocument? (schema? : Document → Option Schema) (d : Document) :
    Option (String × Schema) := do
  match ← d.fields? ["name", "schema"] with
  | [name, schema] =>
    return (← Document.required? Document.string? name, ← Document.required? schema? schema)
  | _ => none

/-- Reads a schema from a document of at most `layers` layers. -/
def ofLayers? : Nat → Document → Option Schema
  | 0, _ => none
  | layers + 1, d => do
    let names := ["kind", "optional", "name", "parameters", "fields", "key", "value"]
    match ← d.fields? names with
    | [kind, optional, name, parameters, fields, key, value] =>
      return {
        kind := ← Document.required? kindOfDocument? kind
        optional := ← Document.required? Document.bool? optional
        name := ← Document.optional? Document.string? name
        parameters := ← Document.optional?
          (fun d => do (← d.array?).mapM parameterOfDocument?) parameters
        fields := ← (← Document.required? Document.array? fields).mapM
          (fieldOfDocument? (ofLayers? layers))
        key := ← Document.optional? (ofLayers? layers) key
        value := ← Document.optional? (ofLayers? layers) value }
    | _ => none

/-- Reads a schema. -/
def ofDocument? (d : Document) : Option Schema :=
  ofLayers? d.height d

end Schema

end Sluice
