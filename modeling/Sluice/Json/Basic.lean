import Sluice.Number.Binary64
import Sluice.Number.Width

/-!
# JSON values and documents

A `Value` is what a JSON text means. A `Document` is what a text says: its members stand in the
order written, repeated names included, and a part that has no meaning is kept as `unreadable`.
A part is unreadable when it is a number beyond the 64-bit binary range, a string that names half
of a surrogate pair, an object with such a name, or an array or object nested too deeply. Reading
one member of a document is not disturbed by an unreadable other one, while a document has a value
only if it is readable throughout.

## Main definitions

* `Value`, `Document`: the two readings of a text.
* `Document.value?`: the meaning of a document; of members with one name the last one counts, and
  members are ordered by name.
* `Value.document`: a value as a document.
-/

namespace Sluice.Json

open Sluice.Number

/-- A number: a whole number of 64 bits, signed or unsigned, or else a binary number. -/
inductive Number where
  | integer (n : Int)
  | double (x : Binary64)
deriving DecidableEq, Repr, Inhabited

/-- The meaning of a JSON text. -/
inductive Value where
  | null
  | bool (b : Bool)
  | number (n : Number)
  | string (s : String)
  | array (items : List Value)
  | object (members : List (String × Value))
deriving Repr, Inhabited

/-- A JSON text as written. -/
inductive Document where
  | null
  | bool (b : Bool)
  | number (n : Number)
  | string (s : String)
  | array (items : List Document)
  | object (members : List (String × Document))
  | unreadable
deriving Repr, Inhabited

/-! ## Values -/

namespace Value

/-- The first member of an object with the name given. -/
def get? (name : String) : Value → Option Value
  | .object members => members.lookup name
  | _ => none

/-- The text of a string. -/
def string? : Value → Option String
  | .string s => some s
  | _ => none

/-- The items of an array. -/
def array? : Value → Option (List Value)
  | .array items => some items
  | _ => none

/-- A whole number that fits 64 signed bits. -/
def int64? : Value → Option Int
  | .number (.integer n) => if IsInt64 n then some n else none
  | _ => none

/-- Whether the value is the string given. -/
def isString (s : String) (v : Value) : Bool :=
  v.string? == some s

end Value

/-- A whole number as a value. -/
def Value.integer (n : Int) : Value :=
  .number (.integer n)

/-! ## Documents -/

/-- The members ordered by name, the last of each name. -/
def orderMembers {α : Type} (members : List (String × α)) : List (String × α) :=
  members.foldl insertMember []
where
  /-- Puts a member in its place, in the stead of one with its name. -/
  insertMember : List (String × α) → String × α → List (String × α)
    | [], m => [m]
    | m' :: rest, m =>
      if m.1 < m'.1 then m :: m' :: rest
      else if m.1 = m'.1 then m :: rest
      else m' :: insertMember rest m

mutual

/-- The meaning of a document that is readable throughout. -/
def Document.value? : Document → Option Value
  | .null => some .null
  | .bool b => some (.bool b)
  | .number n => some (.number n)
  | .string s => some (.string s)
  | .array items => (Document.values? items).map .array
  | .object members => (Document.memberValues? members).map fun ms => .object (orderMembers ms)
  | .unreadable => none

/-- The meanings of the items of an array. -/
def Document.values? : List Document → Option (List Value)
  | [] => some []
  | d :: rest =>
    match d.value?, Document.values? rest with
    | some v, some vs => some (v :: vs)
    | _, _ => none

/-- The meanings of the members of an object, as written. -/
def Document.memberValues? : List (String × Document) → Option (List (String × Value))
  | [] => some []
  | (name, d) :: rest =>
    match d.value?, Document.memberValues? rest with
    | some v, some vs => some ((name, v) :: vs)
    | _, _ => none

end

mutual

/-- The document that writes a value member by member. -/
def Value.document : Value → Document
  | .null => .null
  | .bool b => .bool b
  | .number n => .number n
  | .string s => .string s
  | .array items => .array (Value.documents items)
  | .object members => .object (Value.memberDocuments members)

/-- The documents of the items of an array. -/
def Value.documents : List Value → List Document
  | [] => []
  | v :: rest => v.document :: Value.documents rest

/-- The documents of the members of an object. -/
def Value.memberDocuments : List (String × Value) → List (String × Document)
  | [] => []
  | (name, v) :: rest => (name, v.document) :: Value.memberDocuments rest

end

mutual

/-- The number of nested layers of a document. -/
def Document.height : Document → Nat
  | .array items => Document.heights items + 1
  | .object members => Document.memberHeights members + 1
  | _ => 1

/-- The greatest height among the items of an array. -/
def Document.heights : List Document → Nat
  | [] => 0
  | d :: rest => max d.height (Document.heights rest)

/-- The greatest height among the members of an object. -/
def Document.memberHeights : List (String × Document) → Nat
  | [] => 0
  | (_, d) :: rest => max d.height (Document.memberHeights rest)

end

end Sluice.Json
