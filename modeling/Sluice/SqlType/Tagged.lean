import Sluice.SqlType.Names

/-!
# Types as they are held

A primitive type is held as a tag beside an optional list of parameters. Nothing in this form keeps
the two in step: there are values with the tag of an array, decimals without a scale, and whole
numbers with parameters. They are ruled out only where types are made, by `withParameters` and the
other ways to a type. What is done with a type relies on that: parameters are looked up by their
place, which fails where the list is too short.

## Main definitions

* `Breach`: how a type can disappoint what relies on it.
* `TaggedPrimitive`: a tag beside parameters, with the ways to make one.
* `TaggedPrimitive.precision`, `scale`, `print`: what may fail on a type that was made otherwise.
* `TaggedType`, `TaggedRow`: types and rows of them.
-/

namespace Sluice

/-- What stops the program where a type is not as it should be. -/
inductive Breach where
  /-- a list ends before the place that is looked at -/
  | outOfBounds (index length : Nat)
  /-- the tag of a primitive type is that of a type with components -/
  | impossibleTag (tag : TypeTag)
deriving DecidableEq, Repr

/-- What the program stops with. -/
def Breach.message : Breach → String
  | .outOfBounds index length =>
    "index out of bounds: the len is " ++ toString length ++ " but the index is " ++ toString index
  | .impossibleTag tag =>
    "internal error: entered unreachable code: PrimitiveType cannot carry " ++ tag.name

/-! ## Primitive types -/

/-- A tag beside the parameters, if there are any. -/
structure TaggedPrimitive where
  tag : TypeTag
  parameters : Option (List Int)
deriving DecidableEq, Repr, Inhabited

namespace TaggedPrimitive

/-- The type of a tag without parameters. -/
def unparameterized (tag : TypeTag) : TaggedPrimitive :=
  ⟨tag, none⟩

/-- The decimal type with the bounds given. -/
def ofBounds (precision scale : Int) : Except DecimalError TaggedPrimitive := do
  checkDecimalBounds precision scale
  return ⟨.decimal, some [precision, scale]⟩

/-- The primitive type of a tag and its parameters, which only `DECIMAL` looks at. -/
def withParameters (tag : TypeTag) (parameters : List Int) :
    Except PrimitiveError TaggedPrimitive :=
  match tag with
  | .array | .map | .struct => .error (.notPrimitive tag)
  | .decimal =>
    -- the parameters are counted before they are looked up
    match parameters with
    | [precision, scale] => (ofBounds precision scale).mapError .decimal
    | _ => .error (.parameterCount parameters.length)
  | _ => .ok (unparameterized tag)

/-- The primitive type of a tag that needs no parameters. -/
def ofTag (tag : TypeTag) : Except PrimitiveError TaggedPrimitive :=
  withParameters tag []

/-- The primitive type of a name, with parameters where they are given. -/
def ofName (name : String) (parameters : Option (List Int)) :
    Except PrimitiveError TaggedPrimitive :=
  let list := parameters.getD []
  match Text.asciiUpper name with
  | "BOOLEAN" => withParameters .boolean list
  | "INT" | "INTEGER" => withParameters .integer list
  | "VARCHAR" | "STRING" => withParameters .string list
  | "DECIMAL" =>
    -- the parameters of `DECIMAL` are counted here too, before the tag asks for them
    if list.length ≠ 2 then .error (.parameterCount list.length) else withParameters .decimal list
  | _ =>
    match TypeTag.ofName? name with
    | some tag => withParameters tag list
    | none => .error (.unknownName name)

/-! ### What is done with them -/

/-- The parameter at a place of a list, which must have one there. -/
def parameterAt (list : List Int) (index : Nat) : Except Breach Int :=
  match list[index]? with
  | some n => .ok n
  | none => .error (.outOfBounds index list.length)

/-- The first parameter, if there are parameters. -/
def precision (p : TaggedPrimitive) : Except Breach (Option Int) :=
  match p.parameters with
  | some list => (parameterAt list 0).map some
  | none => .ok none

/-- The second parameter, if there are parameters. -/
def scale (p : TaggedPrimitive) : Except Breach (Option Int) :=
  match p.parameters with
  | some list => (parameterAt list 1).map some
  | none => .ok none

/-- The text of a primitive type. -/
def print (p : TaggedPrimitive) : Except Breach String :=
  match p.tag with
  | .integer => .ok "INT"
  | .string => .ok "VARCHAR"
  | .decimal =>
    -- the bounds are looked up by their places, as they are always there
    match p.parameters with
    | some list => do return decimalTypeName (← parameterAt list 0) (← parameterAt list 1)
    | none => .ok "DECIMAL"
  | tag => .ok tag.name

/-- A decimal without a scale can be held, but not asked for its scale. -/
example : (⟨.decimal, some [6]⟩ : TaggedPrimitive).scale = .error (.outOfBounds 1 1) := rfl

end TaggedPrimitive

/-! ## Types -/

/-- A type whose primitive types are held with tags. -/
inductive TaggedType where
  | primitive (p : TaggedPrimitive)
  | array (element : TaggedType)
  | map (key : TaggedPrimitive) (value : TaggedType)
  | struct (fields : List (String × TaggedType))
deriving Repr, Inhabited

/-- The fields of a row, in order. -/
abbrev TaggedRow := List (String × TaggedType)

namespace TaggedType

mutual

/-- The text of a type. -/
def print : TaggedType → Except Breach String
  | .primitive p => p.print
  | .array element => do return "ARRAY<" ++ (← element.print) ++ ">"
  | .map key value => do return "MAP<" ++ (← key.print) ++ "," ++ (← value.print) ++ ">"
  | .struct fields => do return "STRUCT<" ++ ", ".intercalate (← printFields fields) ++ ">"

/-- The texts of the fields of a struct. -/
def printFields : List (String × TaggedType) → Except Breach (List String)
  | [] => .ok []
  | (name, type) :: rest => do
    let type ← type.print
    return (name ++ " " ++ type) :: (← printFields rest)

end

mutual

/-- The primitive types in a type, those of leaves and those of the keys of maps. -/
def primitives : TaggedType → List TaggedPrimitive
  | .primitive p => [p]
  | .array element => element.primitives
  | .map key value => key :: value.primitives
  | .struct fields => primitivesOfFields fields

/-- The primitive types in the fields of a struct. -/
def primitivesOfFields : List (String × TaggedType) → List TaggedPrimitive
  | [] => []
  | (_, type) :: rest => type.primitives ++ primitivesOfFields rest

end

end TaggedType

end Sluice
