import Sluice.SqlType.Codec
import Sluice.SqlType.Tagged

/-!
# Types in JSON as they are held

The stored form of a type has the tag and the parameters of each primitive type as they are held.
They are read by themselves and put together by `TaggedPrimitive.withParameters`, which checks them.
-/

namespace Sluice

open Json

/-- The stored form of a primitive type. -/
def TaggedPrimitive.toJson (p : TaggedPrimitive) : Value :=
  .object [
    ("sql_type", .string p.tag.title),
    ("parameters", Value.ofOption (fun ps => .array (ps.map Value.integer)) p.parameters)]

/-- Reads a primitive type. -/
def TaggedPrimitive.ofDocument? (d : Document) : Option TaggedPrimitive := do
  match ← d.fields? ["sql_type", "parameters"] with
  | [tag, parameters] =>
    let tag ← Document.required? TypeTag.ofDocument? tag
    let parameters ← Document.optional?
      (fun d => do (← d.array?).mapM parameterOfDocument?) parameters
    (TaggedPrimitive.withParameters tag (parameters.getD [])).toOption
  | _ => none

namespace TaggedType

/-- Reads a field, given a reader of its type. -/
def fieldOfDocument? (type? : Document → Option TaggedType) (d : Document) :
    Option (String × TaggedType) := do
  match ← d.fields? ["name", "typ"] with
  | [name, type] =>
    return (← Document.required? Document.string? name, ← Document.required? type? type)
  | _ => none

/-- Reads the fields of a struct, given a reader of their types. -/
def rowOfDocument? (type? : Document → Option TaggedType) (d : Document) : Option TaggedRow := do
  match ← d.fields? ["fields"] with
  | [fields] =>
    (← Document.required? Document.array? fields).mapM (fieldOfDocument? type?)
  | _ => none

/-- Reads a type from a document of at most `layers` layers. -/
def ofLayers? : Nat → Document → Option TaggedType
  | 0, _ => none
  | layers + 1, d => do
    match ← d.choice? with
    | ("Primitive", some body) => (TaggedPrimitive.ofDocument? body).map .primitive
    | ("Array", some body) =>
      match ← body.fields? ["element"] with
      | [element] => (Document.required? (ofLayers? layers) element).map .array
      | _ => none
    | ("Map", some body) =>
      match ← body.fields? ["key", "value"] with
      | [key, value] =>
        return .map (← Document.required? TaggedPrimitive.ofDocument? key)
          (← Document.required? (ofLayers? layers) value)
      | _ => none
    | ("Struct", some body) => (rowOfDocument? (ofLayers? layers) body).map .struct
    | _ => none

/-- Reads a type. -/
def ofDocument? (d : Document) : Option TaggedType :=
  ofLayers? d.height d

end TaggedType

/-- Reads a row type. -/
def TaggedRow.ofDocument? (d : Document) : Option TaggedRow :=
  TaggedType.rowOfDocument? (TaggedType.ofLayers? d.height) d

end Sluice
