import Sluice.Text.Quoted

/-!
# Query identifiers

A running query is known by a text. The identifier of a transient query is made from 128 bits that
the caller draws at random, written as 32 digits of lower-case hexadecimal.
-/

namespace Sluice

/-- The identifier of a running query. -/
structure QueryId where
  text : String
deriving DecidableEq, Repr, Inhabited

namespace QueryId

/-- What the identifiers of transient queries begin with. -/
def transientLead : String := "transient_"

/-- The identifier of a transient query. -/
def transient (bits : BitVec 128) : QueryId :=
  let digit (i : Nat) : Char := Nat.digitChar (bits.toNat / Nat.pow 16 (31 - i) % 16)
  ⟨transientLead ++ String.ofList ((List.range 32).map digit)⟩

/-- Whether a text is a run of lower-case hexadecimal digits. -/
def isLowerHex (cs : List Char) : Bool :=
  cs.all fun c => c.isDigit || ('a' ≤ c && c ≤ 'f')

/-- Whether an identifier has the form of a transient query's. -/
def isTransient (id : QueryId) : Bool :=
  let lead := transientLead.toList
  let cs := id.text.toList
  cs.take lead.length == lead && (cs.drop lead.length).length == 32 &&
    isLowerHex (cs.drop lead.length)

/-- The text that shows an identifier. -/
def print (id : QueryId) : String :=
  "QueryId(" ++ Text.quoted id.text ++ ")"

end QueryId

end Sluice
