import Sluice.Decimal.Bounds

/-!
# SQL types

The types of columns: primitive types, of which only `DECIMAL` has parameters, and arrays, maps
from primitive keys, and structs built from them. Field order counts, and a name may stand twice.

## Main definitions

* `TypeTag`: the closed set of type constructors, with their names.
* `Primitive`, `SqlType`, `RowType`: the types, and the fields of a row.
* `PrimitiveError`: why a name or a parameter list describes no primitive type.
-/

namespace Sluice

/-! ## Tags -/

/-- A type constructor, without parameters or components. -/
inductive TypeTag where
  | boolean
  | integer
  | bigint
  | double
  | string
  | decimal
  | array
  | map
  | struct
deriving DecidableEq, Repr, Inhabited

namespace TypeTag

/-- All tags, in their order. -/
def all : List TypeTag :=
  [boolean, integer, bigint, double, string, decimal, array, map, struct]

/-- The place of a tag in the order. -/
def rank : TypeTag → Nat
  | boolean => 0
  | integer => 1
  | bigint => 2
  | double => 3
  | string => 4
  | decimal => 5
  | array => 6
  | map => 7
  | struct => 8

/-- The name of a tag in messages. -/
def name : TypeTag → String
  | boolean => "BOOLEAN"
  | integer => "INTEGER"
  | bigint => "BIGINT"
  | double => "DOUBLE"
  | string => "STRING"
  | decimal => "DECIMAL"
  | array => "ARRAY"
  | map => "MAP"
  | struct => "STRUCT"

/-- Whether types with this tag are built from other types. -/
def isComplex : TypeTag → Bool
  | array | map | struct => true
  | _ => false

end TypeTag

/-! ## Types -/

/-- A type without components. -/
inductive Primitive where
  | boolean
  | integer
  | bigint
  | double
  | string
  | decimal (precision scale : Int)
deriving DecidableEq, Repr, Inhabited

namespace Primitive

/-- The constructor of a primitive type. -/
def tag : Primitive → TypeTag
  | boolean => .boolean
  | integer => .integer
  | bigint => .bigint
  | double => .double
  | string => .string
  | decimal _ _ => .decimal

/-- The parameters of a `DECIMAL`; other types have none. -/
def parameters? : Primitive → Option (List Int)
  | decimal p s => some [p, s]
  | _ => none

/-- The precision of a `DECIMAL`. -/
def precision? : Primitive → Option Int
  | decimal p _ => some p
  | _ => none

/-- The scale of a `DECIMAL`. -/
def scale? : Primitive → Option Int
  | decimal _ s => some s
  | _ => none

/-- The name of a primitive type. -/
def name : Primitive → String
  | boolean => "BOOLEAN"
  | integer => "INT"
  | bigint => "BIGINT"
  | double => "DOUBLE"
  | string => "VARCHAR"
  | decimal p s => decimalTypeName p s

end Primitive

/-- The type of a column. -/
inductive SqlType where
  | primitive (p : Primitive)
  | array (element : SqlType)
  | map (key : Primitive) (value : SqlType)
  | struct (fields : List (String × SqlType))
deriving Repr, Inhabited

/-- A named column or struct field. -/
abbrev Field := String × SqlType

/-- The fields of a row or struct, in order. -/
abbrev RowType := List Field

/-- The constructor of a type. -/
def SqlType.tag : SqlType → TypeTag
  | .primitive p => p.tag
  | .array _ => .array
  | .map _ _ => .map
  | .struct _ => .struct

/-- The type of the first field of the name given. -/
def RowType.field? (row : RowType) (name : String) : Option SqlType :=
  row.lookup name

/-- The place of the first field of the name given. -/
def RowType.index? (row : RowType) (name : String) : Option Nat :=
  row.findIdx? (·.1 == name)

mutual

/-- Equality of types is decided component by component. -/
def SqlType.decEq : (a b : SqlType) → Decidable (a = b)
  | .primitive p, .primitive q => decidable_of_iff (p = q) (by simp)
  | .array a, .array b =>
    have := SqlType.decEq a b
    decidable_of_iff (a = b) (by simp)
  | .map k a, .map l b =>
    have := SqlType.decEq a b
    decidable_of_iff (k = l ∧ a = b) (by simp)
  | .struct fs, .struct gs =>
    have := SqlType.fieldsDecEq fs gs
    decidable_of_iff (fs = gs) (by simp)
  | .primitive _, .array _ | .primitive _, .map _ _ | .primitive _, .struct _
  | .array _, .primitive _ | .array _, .map _ _ | .array _, .struct _
  | .map _ _, .primitive _ | .map _ _, .array _ | .map _ _, .struct _
  | .struct _, .primitive _ | .struct _, .array _ | .struct _, .map _ _ => .isFalse (by simp)

/-- Equality of fields is decided field by field. -/
def SqlType.fieldsDecEq : (fs gs : List (String × SqlType)) → Decidable (fs = gs)
  | [], [] => .isTrue rfl
  | [], _ :: _ => .isFalse (by simp)
  | _ :: _, [] => .isFalse (by simp)
  | (m, a) :: fs, (n, b) :: gs =>
    have := SqlType.decEq a b
    have := SqlType.fieldsDecEq fs gs
    decidable_of_iff ((m = n ∧ a = b) ∧ fs = gs) (by simp)

end

instance : DecidableEq SqlType := SqlType.decEq

/-! ## Describing primitive types -/

/-- Why a name or a parameter list describes no primitive type. -/
inductive PrimitiveError where
  | unknownName (name : String)
  | notPrimitive (tag : TypeTag)
  | parameterCount (count : Nat)
  | decimal (e : DecimalError)
deriving DecidableEq, Repr

/-- What the error says. -/
def PrimitiveError.message : PrimitiveError → String
  | .unknownName name => "Unknown primitive type: " ++ name
  | .notPrimitive tag => "Invalid primitive type: " ++ tag.name
  | .parameterCount n => "Invalid number of DECIMAL type parameters: " ++ toString n
  | .decimal e => e.message

namespace Primitive

/-- The decimal type with the bounds given. -/
def ofBounds (precision scale : Int) : Except DecimalError Primitive := do
  checkDecimalBounds precision scale
  return .decimal precision scale

/-- The primitive type of a tag and its parameters, which only `DECIMAL` looks at. -/
def withParameters (tag : TypeTag) (parameters : List Int) : Except PrimitiveError Primitive :=
  match tag with
  | .boolean => .ok .boolean
  | .integer => .ok .integer
  | .bigint => .ok .bigint
  | .double => .ok .double
  | .string => .ok .string
  | .decimal =>
    -- the parameters of other types are not looked at
    match parameters with
    | [p, s] => (ofBounds p s).mapError .decimal
    | _ => .error (.parameterCount parameters.length)
  | .array => .error (.notPrimitive .array)
  | .map => .error (.notPrimitive .map)
  | .struct => .error (.notPrimitive .struct)

/-- The primitive type of a tag that needs no parameters. -/
def ofTag (tag : TypeTag) : Except PrimitiveError Primitive :=
  withParameters tag []

end Primitive

end Sluice
