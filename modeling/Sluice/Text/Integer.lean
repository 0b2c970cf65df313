import Sluice.Number.Width

/-!
# Whole numbers in text

A whole number is an optional sign and one or more ASCII digits, leading zeros allowed, and is
accepted only within the bounds of its width. An unsigned number admits `+` but no `-`.
-/

namespace Sluice.Text

open Sluice.Number

/-- The value of a run of ASCII digits, the first one leading. -/
def natOfDigits (ds : List Char) : Nat :=
  ds.foldl (fun n d => 10 * n + (d.toNat - '0'.toNat)) 0

/-- Reads one or more ASCII digits and nothing else. -/
def readDigits? (cs : List Char) : Option Nat :=
  if cs ≠ [] ∧ cs.all Char.isDigit then some (natOfDigits cs) else none

/-- Reads a whole number with an optional sign. -/
def readInteger? : List Char → Option Int
  | '-' :: ds => (readDigits? ds).map fun n => -(n : Int)
  | '+' :: ds => (readDigits? ds).map fun n => (n : Int)
  | ds => (readDigits? ds).map fun n => (n : Int)

/-- Reads a signed number of 32 bits. -/
def readInt32? (cs : List Char) : Option Int :=
  (readInteger? cs).filter fun n => decide (IsInt32 n)

/-- Reads an unsigned number of 64 bits. -/
def readUInt64? (cs : List Char) : Option Nat :=
  let digits := match cs with
    | '+' :: ds => ds
    | ds => ds
  (readDigits? digits).filter fun n => decide (n ≤ uint64Greatest)

end Sluice.Text
