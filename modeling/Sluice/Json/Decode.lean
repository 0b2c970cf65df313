import Sluice.Json.Basic

/-!
# Reading domain values from documents

A record is written as an object of named members, in any order and with others among them, or as
an array of its members in their order of declaration. A member that is named twice is an error
when the record has it, and an absent optional member is the same as `null`. A choice is written
as its tag alone, or as an object whose one member is named by the tag.
-/

namespace Sluice.Json

namespace Document

/-- A string. -/
def string? : Document → Option String
  | .string s => some s
  | _ => none

/-- A truth value. -/
def bool? : Document → Option Bool
  | .bool b => some b
  | _ => none

/-- A whole number between two bounds. -/
def integer? (least greatest : Int) : Document → Option Int
  | .number (.integer n) => if least ≤ n ∧ n ≤ greatest then some n else none
  | _ => none

/-- A natural number up to a bound. -/
def natural? (greatest : Nat) (d : Document) : Option Nat :=
  (d.integer? 0 greatest).map Int.toNat

/-- The items of an array. -/
def array? : Document → Option (List Document)
  | .array items => some items
  | _ => none

/-- The only member of the name given, or none; nothing if the name stands twice. -/
def member? (members : List (String × Document)) (name : String) : Option (Option Document) :=
  match members.filter (·.1 == name) with
  | [] => some none
  | [(_, d)] => some (some d)
  | _ => none

/-- The members of a record in the order of `names`; an array may leave out members after the
first `least`. -/
def record? (names : List String) (least : Nat) : Document → Option (List (Option Document))
  | .object members => names.mapM (member? members)
  | .array items =>
    if least ≤ items.length ∧ items.length ≤ names.length then
      some (items.map some ++ List.replicate (names.length - items.length) none)
    else none
  | _ => none

/-- The members of a record all of which an array must list. -/
def fields? (names : List String) (d : Document) : Option (List (Option Document)) :=
  d.record? names names.length

/-- A member that must be present. -/
def required? {α : Type} (read? : Document → Option α) (member : Option Document) : Option α :=
  member.bind read?

/-- A member that may be absent or `null`. -/
def optional? {α : Type} (read? : Document → Option α) : Option Document → Option (Option α)
  | none => some none
  | some .null => some none
  | some d => (read? d).map some

/-- The tag of a choice and what is written under it. -/
def choice? : Document → Option (String × Option Document)
  | .string tag => some (tag, none)
  | .object [(tag, d)] => some (tag, some d)
  | _ => none

/-- The tag of a choice between plain tags; `null` may be written under it. -/
def tag? (d : Document) : Option String :=
  match d.choice? with
  | some (tag, none) => some tag
  | some (tag, some .null) => some tag
  | _ => none

end Document

/-- A value, or `null` in its absence. -/
def Value.ofOption {α : Type} (write : α → Value) : Option α → Value
  | none => .null
  | some a => write a

/-- A string, or `null` in its absence. -/
def Value.ofString? (s : Option String) : Value :=
  Value.ofOption .string s

end Sluice.Json
