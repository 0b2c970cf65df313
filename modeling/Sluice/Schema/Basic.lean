/-!
# Structured schemas

A structured schema describes a record as the converters of wire formats see it. It knows more
than a SQL type does: integer widths, optional values, the name of a logical type, and a list of
free-form parameters. It need not be complete: an array may lack its element schema and a map its
key or value schema. Having no parameters at all is not the same as having an empty list of them.
-/

namespace Sluice

/-- The physical kind of a schema. -/
inductive SchemaKind where
  | int8
  | int16
  | int32
  | int64
  | float32
  | float64
  | boolean
  | string
  | bytes
  | array
  | map
  | struct
deriving DecidableEq, Repr, Inhabited

namespace SchemaKind

/-- All kinds, in their order. -/
def all : List SchemaKind :=
  [int8, int16, int32, int64, float32, float64, boolean, string, bytes, array, map, struct]

/-- The name of a kind in messages. -/
def name : SchemaKind → String
  | int8 => "INT8"
  | int16 => "INT16"
  | int32 => "INT32"
  | int64 => "INT64"
  | float32 => "FLOAT32"
  | float64 => "FLOAT64"
  | boolean => "BOOLEAN"
  | string => "STRING"
  | bytes => "BYTES"
  | array => "ARRAY"
  | map => "MAP"
  | struct => "STRUCT"

/-- Whether schemas of this kind have no schemas inside. -/
def isPrimitive : SchemaKind → Bool
  | array | map | struct => false
  | _ => true

end SchemaKind

/-- A structured schema. -/
structure Schema where
  kind : SchemaKind
  optional : Bool
  name : Option String
  parameters : Option (List (String × String))
  fields : List (String × Schema)
  key : Option Schema
  value : Option Schema
deriving Repr, Inhabited

namespace Schema

/-! ## Constructors -/

/-- A required schema of a kind, with nothing else. -/
def leaf (kind : SchemaKind) : Schema where
  kind := kind
  optional := false
  name := none
  parameters := none
  fields := []
  key := none
  value := none

/-- An array of elements. -/
def array (element : Schema) : Schema :=
  { leaf .array with value := some element }

/-- A map from keys to values. -/
def map (key value : Schema) : Schema :=
  { leaf .map with key := some key, value := some value }

/-- A struct of named fields. -/
def struct (fields : List (String × Schema)) : Schema :=
  { leaf .struct with fields := fields }

/-- The schema that admits absent values besides. -/
def asOptional (s : Schema) : Schema :=
  { s with optional := true }

/-- The schema under a name. -/
def withName (s : Schema) (name : String) : Schema :=
  { s with name := some name }

/-- The schema with one more parameter. -/
def withParameter (s : Schema) (key value : String) : Schema :=
  { s with parameters := some (s.parameters.getD [] ++ [(key, value)]) }

/-! ## Parts -/

/-- The first parameter of a key. -/
def parameter? (s : Schema) (key : String) : Option String :=
  (s.parameters.getD []).lookup key

/-- The schema of the first field of a name. -/
def field? (s : Schema) (name : String) : Option Schema :=
  s.fields.lookup name

/-- The text that names a schema in messages. -/
def print (s : Schema) : String :=
  match s.name with
  | some name => "Schema\x7b" ++ name ++ ":" ++ s.kind.name ++ "\x7d"
  | none => "Schema\x7b" ++ s.kind.name ++ "\x7d"

/-! ## Equality -/

mutual

/-- Equality of schemas is decided part by part. -/
def decEq : (a b : Schema) → Decidable (a = b)
  | ⟨k, o, n, ps, fs, key, v⟩, ⟨k', o', n', ps', fs', key', v'⟩ =>
    have := fieldsDecEq fs fs'
    have := optionDecEq key key'
    have := optionDecEq v v'
    decidable_of_iff (k = k' ∧ o = o' ∧ n = n' ∧ ps = ps' ∧ fs = fs' ∧ key = key' ∧ v = v')
      (by simp)

/-- Equality of fields is decided field by field. -/
def fieldsDecEq : (fs gs : List (String × Schema)) → Decidable (fs = gs)
  | [], [] => .isTrue rfl
  | [], _ :: _ => .isFalse (by simp)
  | _ :: _, [] => .isFalse (by simp)
  | (m, a) :: fs, (n, b) :: gs =>
    have := decEq a b
    have := fieldsDecEq fs gs
    decidable_of_iff ((m = n ∧ a = b) ∧ fs = gs) (by simp)

/-- Equality of schemas that may be missing. -/
def optionDecEq : (a b : Option Schema) → Decidable (a = b)
  | none, none => .isTrue rfl
  | none, some _ => .isFalse (by simp)
  | some _, none => .isFalse (by simp)
  | some a, some b =>
    have := decEq a b
    decidable_of_iff (a = b) (by simp)

end

instance : DecidableEq Schema := decEq

end Schema

end Sluice
