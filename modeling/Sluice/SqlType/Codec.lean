import Sluice.Json.Decode
import Sluice.SqlType.Basic

/-!
# Types in JSON

A type is stored as a choice: a primitive type with its tag and parameters, an array with its
element type, a map with its key and value types, or a struct with its fields. Reading checks a
primitive type again, so that no stored text makes an invalid one, and drops parameters that its
tag does not have.
-/

namespace Sluice

open Json

/-! ## Writing -/

/-- The stored name of a tag. -/
def TypeTag.title : TypeTag → String
  | boolean => "Boolean"
  | integer => "Integer"
  | bigint => "Bigint"
  | double => "Double"
  | string => "String"
  | decimal => "Decimal"
  | array => "Array"
  | map => "Map"
  | struct => "Struct"

/-- The stored form of a primitive type. -/
def Primitive.toJson (p : Primitive) : Value :=
  .object [
    ("sql_type", .string p.tag.title),
    ("parameters", Value.ofOption (fun ps => .array (ps.map Value.integer)) p.parameters?)]

mutual

/-- The stored form of a type. -/
def SqlType.toJson : SqlType → Value
  | .primitive p => .object [("Primitive", p.toJson)]
  | .array element => .object [("Array", .object [("element", element.toJson)])]
  | .map key value => .object [("Map", .object [("key", key.toJson), ("value", value.toJson)])]
  | .struct fields =>
    .object [("Struct", .object [("fields", .array (SqlType.fieldsToJson fields))])]

/-- The stored forms of the fields of a struct. -/
def SqlType.fieldsToJson : List (String × SqlType) → List Value
  | [] => []
  | (name, type) :: rest =>
    .object [("name", .string name), ("typ", type.toJson)] :: SqlType.fieldsToJson rest

end

/-- The stored form of a row type. -/
def RowType.toJson (row : RowType) : Value :=
  .object [("fields", .array (SqlType.fieldsToJson row))]

/-! ## Reading -/

/-- Reads a tag. -/
def TypeTag.ofDocument? (d : Document) : Option TypeTag := do
  let title ← d.tag?
  TypeTag.all.find? (·.title == title)

/-- Reads a parameter of a type. -/
def parameterOfDocument? (d : Document) : Option Int :=
  d.integer? Number.int32Least Number.int32Greatest

/-- Reads a primitive type. -/
def Primitive.ofDocument? (d : Document) : Option Primitive := do
  match ← d.fields? ["sql_type", "parameters"] with
  | [tag, parameters] =>
    let tag ← Document.required? TypeTag.ofDocument? tag
    let parameters ← Document.optional?
      (fun d => do (← d.array?).mapM parameterOfDocument?) parameters
    (Primitive.withParameters tag (parameters.getD [])).toOption
  | _ => none

/-- Reads a field, given a reader of its type. -/
def SqlType.fieldOfDocument? (type? : Document → Option SqlType) (d : Document) :
    Option Field := do
  match ← d.fields? ["name", "typ"] with
  | [name, type] =>
    return (← Document.required? Document.string? name, ← Document.required? type? type)
  | _ => none

/-- Reads the fields of a struct, given a reader of their types. -/
def SqlType.rowOfDocument? (type? : Document → Option SqlType) (d : Document) :
    Option RowType := do
  match ← d.fields? ["fields"] with
  | [fields] =>
    (← Document.required? Document.array? fields).mapM (SqlType.fieldOfDocument? type?)
  | _ => none

/-- Reads a type from a document of at most `layers` layers. -/
def SqlType.ofLayers? : Nat → Document → Option SqlType
  | 0, _ => none
  | layers + 1, d => do
    match ← d.choice? with
    | ("Primitive", some body) => (Primitive.ofDocument? body).map .primitive
    | ("Array", some body) =>
      match ← body.fields? ["element"] with
      | [element] => (Document.required? (SqlType.ofLayers? layers) element).map .array
      | _ => none
    | ("Map", some body) =>
      match ← body.fields? ["key", "value"] with
      | [key, value] =>
        return .map (← Document.required? Primitive.ofDocument? key)
          (← Document.required? (SqlType.ofLayers? layers) value)
      | _ => none
    | ("Struct", some body) => (SqlType.rowOfDocument? (SqlType.ofLayers? layers) body).map .struct
    | _ => none

/-- Reads a type. -/
def SqlType.ofDocument? (d : Document) : Option SqlType :=
  SqlType.ofLayers? d.height d

/-- Reads a row type. -/
def RowType.ofDocument? (d : Document) : Option RowType :=
  SqlType.rowOfDocument? (SqlType.ofLayers? d.height) d

end Sluice
