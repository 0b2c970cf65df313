import Sluice.SqlType.Syntax
import Sluice.SqlType.Tagged

/-!
# Reading types from text as they are held

The type language again, for types that are held with tags: the tokens are those of `Cursor`, and a
primitive type is made by `TaggedPrimitive.ofName`. A type with components is refused as the key of
a map with its text in the message, so that the message itself relies on how the type is held.
-/

namespace Sluice

/-- Why a text describes no type. -/
inductive TaggedTypeError where
  | plain (e : TypeError)
  | compositeKey (text : String) (key : TaggedType)

/-- What the error says. -/
def TaggedTypeError.message : TaggedTypeError → Except Breach String
  | .plain e => .ok e.message
  | .compositeKey text key => do
    let fault := "map key must be primitive, got " ++ (← key.print)
    return "invalid type " ++ Text.quoted text ++ ": " ++ fault

namespace Cursor

/-- Reads the rest of a primitive type whose name has been read. -/
def taggedPrimitiveAfter (text : String) (c : Cursor) (name : Reading String c) :
    Except TaggedTypeError (Reading TaggedType c) := do
  let ofName (parameters : Option (List Int)) : Except TaggedTypeError TaggedType :=
    (TaggedPrimitive.ofName (expandTypeName (Text.asciiUpper name.value)) parameters).map .primitive
      |>.mapError fun e => .plain (.primitive e)
  match name.next.punctuation? '(' with
  | some opening =>
    let parameters ← (opening.next.integers text).mapError .plain
    let type ← ofName (some parameters.value)
    return name.after (opening.after (parameters.map fun _ => type))
  | none =>
    let type ← ofName none
    return name.map fun _ => type

mutual

/-- Reads a type. -/
def taggedType (text : String) (c : Cursor) : Except TaggedTypeError (Reading TaggedType c) := do
  let name ← (c.identifier text).mapError .plain
  have := name.shorter
  if Text.asciiUpper name.value = "ARRAY" then
    let opening ← (name.next.expect text '<').mapError .plain
    have := opening.shorter
    let element ← opening.next.taggedType text
    let closing ← (element.next.expect text '>').mapError .plain
    return name.after (opening.after (element.after (closing.map fun _ => .array element.value)))
  else if Text.asciiUpper name.value = "MAP" then
    let opening ← (name.next.expect text '<').mapError .plain
    have := opening.shorter
    let key ← opening.next.taggedType text
    have := key.shorter
    match key.value with
    | .primitive k =>
      let comma ← (key.next.expect text ',').mapError .plain
      have := comma.shorter
      let value ← comma.next.taggedType text
      let closing ← (value.next.expect text '>').mapError .plain
      return name.after (opening.after (key.after (comma.after (value.after
        (closing.map fun _ => .map k value.value)))))
    | other => throw (.compositeKey text other)
  else if Text.asciiUpper name.value = "STRUCT" then
    let opening ← (name.next.expect text '<').mapError .plain
    have := opening.shorter
    match opening.next.punctuation? '>' with
    | some closing => return name.after (opening.after (closing.map fun _ => .struct []))
    | none =>
      let fields ← opening.next.taggedFields text
      return name.after (opening.after (fields.map .struct))
  else
    c.taggedPrimitiveAfter text name
termination_by c.rest.length

/-- Reads one or more fields and the bracket after them. -/
def taggedFields (text : String) (c : Cursor) : Except TaggedTypeError (Reading TaggedRow c) := do
  let name ← (c.identifier text).mapError .plain
  have := name.shorter
  let type ← name.next.taggedType text
  have := type.shorter
  let field := (name.value, type.value)
  match type.next.punctuation? '>' with
  | some closing => return name.after (type.after (closing.map fun _ => [field]))
  | none =>
    let comma ← (type.next.expect text ',').mapError .plain
    have := comma.shorter
    let more ← comma.next.taggedFields text
    return name.after (type.after (comma.after (more.map (field :: ·))))
termination_by c.rest.length

end

end Cursor

/-- Reads a text that is a type and nothing else. -/
def TaggedType.read (text : String) : Except TaggedTypeError TaggedType := do
  let type ← (Cursor.start text).taggedType text
  if type.next.skipBlanks.rest.isEmpty then return type.value
  throw (.plain (.malformed text .trailingText))

end Sluice
