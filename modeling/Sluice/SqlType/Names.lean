import Sluice.SqlType.Basic
import Sluice.Text.Ascii

/-!
# Names of types

A type is named without regard to the case of ASCII letters. `INT` and `INTEGER` name one type, as
do `VARCHAR` and `STRING`; the type language knows `BOOL`, `LONG` and `DEC` besides.
-/

namespace Sluice

/-- The tag whose name is given. -/
def TypeTag.ofName? (name : String) : Option TypeTag :=
  TypeTag.all.find? fun tag => Text.asciiEqual tag.name name

/-- The tag that a primitive type is named by. -/
def Primitive.tagOfName (name : String) : Except PrimitiveError TypeTag :=
  -- two names stand for types whose tags are called otherwise
  match Text.asciiUpper name with
  | "INT" => .ok .integer
  | "VARCHAR" => .ok .string
  | _ =>
    match TypeTag.ofName? name with
    | some tag => .ok tag
    | none => .error (.unknownName name)

/-- The primitive type of a name, with parameters where they are given. -/
def Primitive.ofName (name : String) (parameters : Option (List Int)) :
    Except PrimitiveError Primitive := do
  let tag ← tagOfName name
  withParameters tag (parameters.getD [])

/-- The full name of a type that the type language abbreviates; the name must be in upper case. -/
def expandTypeName (name : String) : String :=
  match name with
  | "BOOL" => "BOOLEAN"
  | "LONG" => "BIGINT"
  | "DEC" => "DECIMAL"
  | _ => name

end Sluice
