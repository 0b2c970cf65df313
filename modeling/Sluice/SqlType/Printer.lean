import Sluice.SqlType.Basic

/-!
# Printing types

A type is printed as the type language writes it, except that a field name stands as it is: a name
with other characters than letters, numbers and underscores does not read back.
-/

namespace Sluice

mutual

/-- The text of a type. -/
def SqlType.print : SqlType → String
  | .primitive p => p.name
  | .array element => "ARRAY<" ++ element.print ++ ">"
  | .map key value => "MAP<" ++ key.name ++ "," ++ value.print ++ ">"
  | .struct fields => "STRUCT<" ++ ", ".intercalate (SqlType.printFields fields) ++ ">"

/-- The texts of the fields of a struct. -/
def SqlType.printFields : List (String × SqlType) → List String
  | [] => []
  | (name, type) :: rest => (name ++ " " ++ type.print) :: SqlType.printFields rest

end

/-- The text of a row type, which is that of a struct. -/
def RowType.print (row : RowType) : String :=
  (SqlType.struct row).print

end Sluice
