import Sluice.Json.Basic
import Sluice.Number.Shortest

/-!
# Printing JSON values

Values are printed without blanks, members in the order they stand in. A string escapes quotes,
backslashes and control characters and nothing else. A binary number keeps a point or an exponent,
so that it does not read as a whole number: its shortest digits are positional from `10 ^ -5` to
below `10 ^ 16`, a tie goes to the even digit, and a positive exponent has its sign too.
-/

namespace Sluice.Json

open Sluice.Number

/-- A digit of lower-case hexadecimal. -/
def hexDigit (n : Nat) : Char :=
  Nat.digitChar (n % 16)

/-- The characters that stand for `c` in a string. -/
def stringChar (c : Char) : List Char :=
  if c == '"' then ['\\', '"']
  else if c == '\\' then ['\\', '\\']
  else if c == '\x08' then ['\\', 'b']
  else if c == '\x0c' then ['\\', 'f']
  else if c == '\n' then ['\\', 'n']
  else if c == '\r' then ['\\', 'r']
  else if c == '\t' then ['\\', 't']
  else if c.toNat < 0x20 then ['\\', 'u', '0', '0', hexDigit (c.toNat / 16), hexDigit c.toNat]
  else [c]

/-- A string between quotes. -/
def printString (s : String) : String :=
  String.ofList ('"' :: s.toList.flatMap stringChar ++ ['"'])

/-- A binary number; one that is not finite has no text of its own. -/
def printDouble : Binary64 → String
  | .finite negative m e =>
    let size :=
      if m = 0 then "0.0"
      else
        let d := shortestDigits .toEven m e
        if -5 < d.point ∧ d.point ≤ 16 then d.positional ".0" else d.scientific
    if negative then "-" ++ size else size
  | _ => "null"

/-- A number. -/
def Number.print : Number → String
  | .integer n => toString n
  | .double x => printDouble x

mutual

/-- The text of a value. -/
def Value.print : Value → String
  | .null => "null"
  | .bool b => if b then "true" else "false"
  | .number n => n.print
  | .string s => printString s
  | .array items => "[" ++ ",".intercalate (Value.printItems items) ++ "]"
  | .object members => "\x7b" ++ ",".intercalate (Value.printMembers members) ++ "\x7d"

/-- The texts of the items of an array. -/
def Value.printItems : List Value → List String
  | [] => []
  | v :: rest => v.print :: Value.printItems rest

/-- The texts of the members of an object. -/
def Value.printMembers : List (String × Value) → List String
  | [] => []
  | (name, v) :: rest => (printString name ++ ":" ++ v.print) :: Value.printMembers rest

end

end Sluice.Json
