import Sluice.Json.Decode
import Sluice.Schema.LogicalDecimal
import Sluice.SqlType.Basic

/-!
# Descriptions of sources

What a client is told about the columns of a source: the type of each, the parameters of decimals
in the order they are declared, the member of an array or map, and the fields of a struct.
-/

namespace Sluice

open Json

/-- The description of a schema. -/
inductive Description where
  | primitive (tag : TypeTag) (parameters : List String)
  | array (member : Description)
  | map (member : Description)
  | struct (fields : List (String × Description))
deriving Repr, Inhabited

/-- Why a schema cannot be described. -/
inductive DescriptionError where
  | invalidKind (kind : SchemaKind)
  | noFields (root : Schema)
deriving DecidableEq, Repr

/-- What the error says. -/
def DescriptionError.message : DescriptionError → String
  | .invalidKind kind => "Invalid type in schema: " ++ kind.name
  | .noFields root => "Root schema should contain fields: " ++ root.print

namespace Schema

/-- The description of a schema without schemas inside. -/
def describeLeaf (s : Schema) : Except DescriptionError Description :=
  match s.kind with
  | .int32 => .ok (.primitive .integer [])
  | .int64 => .ok (.primitive .bigint [])
  | .float32 | .float64 => .ok (.primitive .double [])
  | .boolean => .ok (.primitive .boolean [])
  | .string => .ok (.primitive .string [])
  | .bytes =>
    if s.isDecimal then .ok (.primitive .decimal ((s.parameters.getD []).map (·.2)))
    else .error (.invalidKind .bytes)
  | kind => .error (.invalidKind kind)

mutual

/-- The description of a schema. -/
def describe : Schema → Except DescriptionError Description
  | ⟨.array, _, _, _, _, _, none⟩ => .error (.invalidKind .array)
  | ⟨.array, _, _, _, _, _, some member⟩ => member.describe.map .array
  | ⟨.map, _, _, _, _, _, none⟩ => .error (.invalidKind .map)
  | ⟨.map, _, _, _, _, _, some member⟩ => member.describe.map .map
  | ⟨.struct, _, _, _, fields, _, _⟩ => (describeFields fields).map .struct
  | s => s.describeLeaf

/-- The descriptions of fields, in order and under their own names. -/
def describeFields : List (String × Schema) → Except DescriptionError (List (String × Description))
  | [] => .ok []
  | (name, schema) :: rest => do
    let description ← schema.describe
    return (name, description) :: (← describeFields rest)

end

/-- The descriptions of the columns of a source, of which there must be one. -/
def describeColumns (s : Schema) : Except DescriptionError (List (String × Description)) := do
  match ← s.describe with
  | .struct (column :: rest) => return column :: rest
  | _ => throw (.noFields s)

end Schema

namespace Description

mutual

/-- The form in which a description is sent. -/
def toJson : Description → Value
  | .primitive tag parameters =>
    .object (("type", .string tag.name) ::
      if parameters.isEmpty then [] else [("parameters", .array (parameters.map .string))])
  | .array member => .object [("type", .string "ARRAY"), ("memberSchema", member.toJson)]
  | .map member => .object [("type", .string "MAP"), ("memberSchema", member.toJson)]
  | .struct fields => .object [("type", .string "STRUCT"), ("fields", .array (fieldsToJson fields))]

/-- The forms in which the descriptions of fields are sent. -/
def fieldsToJson : List (String × Description) → List Value
  | [] => []
  | (name, description) :: rest =>
    .object [("name", .string name), ("schema", description.toJson)] :: fieldsToJson rest

end

end Description

end Sluice
