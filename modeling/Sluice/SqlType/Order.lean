import Sluice.SqlType.Basic

/-!
# The order of types

Primitive types come first, then arrays, maps and structs. Primitive types are ordered by tag and
decimals by precision and scale; maps by key, then value; structs field by field, a field by name,
then type, and a struct before its extensions.
-/

namespace Sluice

/-- The order of primitive types. -/
def Primitive.order (a b : Primitive) : Ordering :=
  (compare a.tag.rank b.tag.rank).then <|
    (compare (a.precision?.getD 0) (b.precision?.getD 0)).then <|
      compare (a.scale?.getD 0) (b.scale?.getD 0)

mutual

/-- The order of types. -/
def SqlType.order : SqlType → SqlType → Ordering
  | .primitive p, .primitive q => p.order q
  | .primitive _, _ => .lt
  | .array _, .primitive _ => .gt
  | .array a, .array b => SqlType.order a b
  | .array _, _ => .lt
  | .map k a, .map l b => (k.order l).then (SqlType.order a b)
  | .map _ _, .struct _ => .lt
  | .map _ _, _ => .gt
  | .struct fs, .struct gs => SqlType.fieldsOrder fs gs
  | .struct _, _ => .gt

/-- The order of the fields of structs. -/
def SqlType.fieldsOrder : List (String × SqlType) → List (String × SqlType) → Ordering
  | [], [] => .eq
  | [], _ :: _ => .lt
  | _ :: _, [] => .gt
  | (m, a) :: fs, (n, b) :: gs =>
    (compare m n).then ((SqlType.order a b).then (SqlType.fieldsOrder fs gs))

end

end Sluice
