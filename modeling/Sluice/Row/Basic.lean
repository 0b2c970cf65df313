import Sluice.Decimal.Basic
import Sluice.Number.Shortest

/-!
# Rows

The values that queries produce. A `Datum` is a single value, possibly absent or composite, and a
`Row` holds one datum for each column. Printing shows a row on one line; equality is that of the
numbers a row holds, so decimals of different scale may be equal and a NaN is not equal to itself.
-/

namespace Sluice

open Number

/-- A single value. -/
inductive Datum where
  | null
  | boolean (b : Bool)
  | int32 (n : Int)
  | int64 (n : Int)
  | float64 (x : Binary64)
  | string (s : String)
  | decimal (n : Numeric)
  | array (items : List Datum)
  | map (entries : List (Datum × Datum))
  | struct (fields : List Datum)
deriving Repr, Inhabited

/-- The values of a row, in column order. -/
abbrev Row := List Datum

/-- Whether a value is absent. -/
def Datum.isNull : Datum → Bool
  | .null => true
  | _ => false

/-! ## Printing -/

mutual

/-- The text of a value. -/
def Datum.print : Datum → String
  | .null => "null"
  | .boolean b => if b then "true" else "false"
  | .int32 n => toString n
  | .int64 n => toString n
  | .float64 x => x.plain
  | .string s => s
  | .decimal n => n.plain
  | .array items => "[" ++ ", ".intercalate (Datum.printItems items) ++ "]"
  | .map entries => "\x7b" ++ ", ".intercalate (Datum.printEntries entries) ++ "\x7d"
  | .struct fields => "\x7b" ++ ", ".intercalate (Datum.printItems fields) ++ "\x7d"

/-- The texts of a list of values. -/
def Datum.printItems : List Datum → List String
  | [] => []
  | d :: rest => d.print :: Datum.printItems rest

/-- The texts of the entries of a map. -/
def Datum.printEntries : List (Datum × Datum) → List String
  | [] => []
  | (key, value) :: rest => (key.print ++ "=" ++ value.print) :: Datum.printEntries rest

end

/-- The text of a row. -/
def Row.print (row : Row) : String :=
  "[" ++ ", ".intercalate (Datum.printItems row) ++ "]"

/-! ## Equality of numbers -/

mutual

/-- Whether two values are of one shape and equal number by number. -/
def Datum.equal : Datum → Datum → Bool
  | .null, .null => true
  | .boolean a, .boolean b => a == b
  | .int32 a, .int32 b => a == b
  | .int64 a, .int64 b => a == b
  | .float64 a, .float64 b => a.equal b
  | .string a, .string b => a == b
  | .decimal a, .decimal b => a.equal b
  | .array as, .array bs => Datum.equalItems as bs
  | .map as, .map bs => Datum.equalEntries as bs
  | .struct as, .struct bs => Datum.equalItems as bs
  | _, _ => false

/-- Whether two lists of values are equal item by item. -/
def Datum.equalItems : List Datum → List Datum → Bool
  | [], [] => true
  | a :: as, b :: bs => a.equal b && Datum.equalItems as bs
  | _, _ => false

/-- Whether two lists of entries are equal entry by entry. -/
def Datum.equalEntries : List (Datum × Datum) → List (Datum × Datum) → Bool
  | [], [] => true
  | (k, a) :: as, (l, b) :: bs => k.equal l && a.equal b && Datum.equalEntries as bs
  | _, _ => false

end

/-- Whether two rows are equal value by value. -/
def Row.equal (a b : Row) : Bool :=
  Datum.equalItems a b

end Sluice
