import Sluice.SqlType.Names
import Sluice.SqlType.Printer
import Sluice.Text.Alphanumeric
import Sluice.Text.Blank
import Sluice.Text.Integer
import Sluice.Text.Quoted

/-!
# Reading types

The type language: `ARRAY<type>`, `MAP<primitive,type>`, `STRUCT<name type, …>`, and names of
primitive types with an optional list of whole numbers in parentheses. Blanks may stand before
every token. An identifier is a run of letters, numbers and underscores, or any text without
backquotes between two of them; names and the three constructors are matched without regard to
ASCII case, quoted or not.

A reader moves a `Cursor` over the text. Messages give positions in UTF-8 bytes, so the cursor
counts them. Every reading step leaves less text than it found, which is what makes the mutual
recursion of types and fields end.

## Main definitions

* `SyntaxFault`, `TypeError`: what is wrong with a text.
* `Cursor`, `Reading`: a place in the text, and a step that made progress.
* `SqlType.read`: reads a whole text.
-/

namespace Sluice

/-- Why a text is not a type. -/
inductive SyntaxFault where
  | expectedChar (c : Char) (position : Nat)
  | expectedIdentifier (position : Nat)
  | expectedInteger (position : Nat)
  | unterminatedQuote
  | compositeKey (key : SqlType)
  | trailingText
deriving DecidableEq, Repr

/-- What the fault says. -/
def SyntaxFault.message : SyntaxFault → String
  | .expectedChar c position =>
    "expected '" ++ String.singleton c ++ "' at position " ++ toString position
  | .expectedIdentifier position => "expected identifier at position " ++ toString position
  | .expectedInteger position => "expected integer at position " ++ toString position
  | .unterminatedQuote => "unterminated quoted identifier"
  | .compositeKey key => "map key must be primitive, got " ++ key.print
  | .trailingText => "unexpected trailing input"

/-- Why a text describes no type. -/
inductive TypeError where
  | primitive (e : PrimitiveError)
  | malformed (text : String) (fault : SyntaxFault)
deriving DecidableEq, Repr

/-- What the error says. -/
def TypeError.message : TypeError → String
  | .primitive e => e.message
  | .malformed text fault => "invalid type " ++ Text.quoted text ++ ": " ++ fault.message

/-! ## Cursors -/

/-- The number of bytes of a text in UTF-8. -/
def utf8Length (cs : List Char) : Nat :=
  cs.foldr (fun c n => c.utf8Size + n) 0

/-- A place in a text: the bytes before it and the characters after it. -/
structure Cursor where
  position : Nat
  rest : List Char
deriving DecidableEq, Repr

namespace Cursor

/-- The start of a text. -/
def start (text : String) : Cursor :=
  ⟨0, text.toList⟩

/-- The place after the longest run of characters of a class. -/
def skip (c : Cursor) (p : Char → Bool) : Cursor :=
  ⟨c.position + utf8Length (c.rest.takeWhile p), c.rest.dropWhile p⟩

/-- The place of the next token. -/
def skipBlanks (c : Cursor) : Cursor :=
  c.skip Text.isBlank

/-- Skipping leaves no more text. -/
theorem rest_skip_length_le (c : Cursor) (p : Char → Bool) :
    (c.skip p).rest.length ≤ c.rest.length :=
  (List.dropWhile_sublist p).length_le

/-- Skipping blanks leaves no more text. -/
theorem rest_skipBlanks_length_le (c : Cursor) : c.skipBlanks.rest.length ≤ c.rest.length :=
  c.rest_skip_length_le _

end Cursor

/-- A value read at a cursor, and the place after it. -/
structure Reading (α : Type) (c : Cursor) where
  value : α
  next : Cursor
  shorter : next.rest.length < c.rest.length

namespace Reading

/-- The same step with another value. -/
def map {α β : Type} {c : Cursor} (f : α → β) (r : Reading α c) : Reading β c :=
  ⟨f r.value, r.next, r.shorter⟩

/-- A step that begins where another one ended, as a step from the start of that one. -/
def after {α β : Type} {c : Cursor} (first : Reading α c) (r : Reading β first.next) : Reading β c :=
  ⟨r.value, r.next, Nat.lt_trans r.shorter first.shorter⟩

end Reading

/-! ## Tokens -/

/-- Reads the punctuation `ch`, if it comes next. -/
def Cursor.punctuation? (ch : Char) (c : Cursor) : Option (Reading Unit c) :=
  match h : c.skipBlanks.rest with
  | first :: rest =>
    if first = ch then
      some ⟨(), ⟨c.skipBlanks.position + ch.utf8Size, rest⟩, by
        have := c.rest_skipBlanks_length_le
        simp [h] at this
        simp only
        omega⟩
    else none
  | [] => none

/-- Reads the punctuation `ch`, which must come next. -/
def Cursor.expect (text : String) (ch : Char) (c : Cursor) : Except TypeError (Reading Unit c) :=
  match c.punctuation? ch with
  | some r => .ok r
  | none => .error (.malformed text (.expectedChar ch c.skipBlanks.position))

/-- The mark at both ends of a quoted identifier. -/
def backquote : Char := '\x60'

/-- Reads an identifier. -/
def Cursor.identifier (text : String) (c : Cursor) : Except TypeError (Reading String c) :=
  match h : c.skipBlanks.rest with
  | [] => .error (.malformed text (.expectedIdentifier c.skipBlanks.position))
  | first :: rest =>
    -- a quoted name may hold any character but the quote
    if first = backquote then
      match h' : rest.dropWhile (· != backquote) with
      | [] => .error (.malformed text .unterminatedQuote)
      | _ :: after =>
        let name := rest.takeWhile (· != backquote)
        .ok ⟨String.ofList name, ⟨c.skipBlanks.position + utf8Length name + 2, after⟩, by
          have h1 := c.rest_skipBlanks_length_le
          have h2 := (List.dropWhile_sublist (l := rest) (· != backquote)).length_le
          simp [h] at h1
          simp [h'] at h2
          simp only
          omega⟩
    else if h' : Text.isIdentifierChar first then
      let name := (first :: rest).takeWhile Text.isIdentifierChar
      .ok ⟨String.ofList name, c.skipBlanks.skip Text.isIdentifierChar, by
        have h1 := c.rest_skipBlanks_length_le
        have h2 := (List.dropWhile_sublist (l := rest) Text.isIdentifierChar).length_le
        simp [h] at h1
        simp only [Cursor.skip, h, List.dropWhile_cons, h', if_true]
        omega⟩
    else .error (.malformed text (.expectedIdentifier c.skipBlanks.position))

/-- The characters of a whole number at the start of a text: digits after an optional `-`. -/
def integerText : List Char → List Char
  | '-' :: rest => '-' :: rest.takeWhile Char.isDigit
  | cs => cs.takeWhile Char.isDigit

/-- Reads a whole number. -/
def Cursor.integer (text : String) (c : Cursor) : Except TypeError (Reading Int c) :=
  let digits := integerText c.skipBlanks.rest
  match h : Text.readInt32? digits with
  | some n =>
    .ok ⟨n, ⟨c.skipBlanks.position + utf8Length digits, c.skipBlanks.rest.drop digits.length⟩, by
      have h1 := c.rest_skipBlanks_length_le
      have h2 : digits ≠ [] := by
        intro h0
        simp [h0, Text.readInt32?, Text.readInteger?, Text.readDigits?] at h
      have h3 : digits.length ≤ c.skipBlanks.rest.length := by
        simp only [digits]
        generalize c.skipBlanks.rest = cs
        unfold integerText
        split
        · rename_i rest
          have := (List.takeWhile_sublist (l := rest) Char.isDigit).length_le
          simp only [List.length_cons]
          omega
        · exact (List.takeWhile_sublist _).length_le
      have := List.length_pos_iff.2 h2
      simp only [List.length_drop]
      omega⟩
  | none => .error (.malformed text (.expectedInteger c.skipBlanks.position))

/-- Reads the whole numbers after the first one, up to the closing parenthesis. -/
def Cursor.moreIntegers (text : String) (c : Cursor) :
    Except TypeError (Reading (List Int) c) :=
  -- the list is closed where no comma comes next
  match c.punctuation? ',' with
  | some comma => do
    let n ← comma.next.integer text
    have := comma.shorter
    have := n.shorter
    let more ← n.next.moreIntegers text
    return comma.after (n.after (more.map (n.value :: ·)))
  | none => return (← c.expect text ')').map fun _ => []
termination_by c.rest.length

/-- Reads the whole numbers of a parameter list after its opening parenthesis. -/
def Cursor.integers (text : String) (c : Cursor) : Except TypeError (Reading (List Int) c) := do
  let n ← c.integer text
  let more ← n.next.moreIntegers text
  return n.after (more.map (n.value :: ·))

/-! ## Types -/

/-- Reads the rest of a primitive type whose name has been read. -/
def Cursor.primitiveAfter (text : String) (c : Cursor) (name : Reading String c) :
    Except TypeError (Reading SqlType c) := do
  let ofName (parameters : Option (List Int)) : Except TypeError SqlType :=
    (Primitive.ofName (expandTypeName (Text.asciiUpper name.value)) parameters).map .primitive
      |>.mapError .primitive
  match name.next.punctuation? '(' with
  | some opening =>
    let parameters ← opening.next.integers text
    let type ← ofName (some parameters.value)
    return name.after (opening.after (parameters.map fun _ => type))
  | none =>
    let type ← ofName none
    return name.map fun _ => type

mutual

/-- Reads a type. -/
def Cursor.type (text : String) (c : Cursor) : Except TypeError (Reading SqlType c) := do
  let name ← c.identifier text
  have := name.shorter
  if Text.asciiUpper name.value = "ARRAY" then
    let opening ← name.next.expect text '<'
    have := opening.shorter
    let element ← opening.next.type text
    let closing ← element.next.expect text '>'
    return name.after (opening.after (element.after (closing.map fun _ => .array element.value)))
  else if Text.asciiUpper name.value = "MAP" then
    let opening ← name.next.expect text '<'
    have := opening.shorter
    let key ← opening.next.type text
    have := key.shorter
    -- only a primitive key goes on
    match key.value with
    | .primitive k =>
      let comma ← key.next.expect text ','
      have := comma.shorter
      let value ← comma.next.type text
      let closing ← value.next.expect text '>'
      return name.after (opening.after (key.after (comma.after (value.after
        (closing.map fun _ => .map k value.value)))))
    | other => throw (.malformed text (.compositeKey other))
  else if Text.asciiUpper name.value = "STRUCT" then
    let opening ← name.next.expect text '<'
    have := opening.shorter
    -- a struct may have no fields, but a list of fields has one at least
    match opening.next.punctuation? '>' with
    | some closing => return name.after (opening.after (closing.map fun _ => .struct []))
    | none =>
      let fields ← opening.next.fields text
      return name.after (opening.after (fields.map .struct))
  else
    c.primitiveAfter text name
termination_by c.rest.length

/-- Reads one or more fields and the bracket after them. -/
def Cursor.fields (text : String) (c : Cursor) : Except TypeError (Reading RowType c) := do
  let name ← c.identifier text
  have := name.shorter
  let type ← name.next.type text
  have := type.shorter
  let field := (name.value, type.value)
  match type.next.punctuation? '>' with
  | some closing => return name.after (type.after (closing.map fun _ => [field]))
  | none =>
    let comma ← type.next.expect text ','
    have := comma.shorter
    let more ← comma.next.fields text
    return name.after (type.after (comma.after (more.map (field :: ·))))
termination_by c.rest.length

end

/-- Reads a text that is a type and nothing else. -/
def SqlType.read (text : String) : Except TypeError SqlType := do
  let type ← (Cursor.start text).type text
  if type.next.skipBlanks.rest.isEmpty then return type.value
  throw (.malformed text .trailingText)

end Sluice
