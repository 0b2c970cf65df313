import Sluice.Json.Token

/-!
# Reading JSON texts

A text is read token by token with the containers that are still open on a stack, so that reading
is a recursion on the tokens and nesting is bounded by a count alone: an array or object at a
level beyond `greatestDepth` is read like any other but is kept as `unreadable`.
-/

namespace Sluice.Json

/-- The number of nested arrays and objects that a reader enters. -/
def greatestDepth : Nat := 127

/-- An array or object whose end has not been read; the last item comes first. -/
inductive Open where
  | array (items : List Document)
  | object (members : List (Option String × Document)) (name : Option String)

/-- What may come next. -/
inductive Place where
  /-- a value -/
  | value
  /-- a value, or the end of an array without items -/
  | firstItem
  /-- a name, or the end of an object without members -/
  | firstName
  /-- a name -/
  | name
  /-- the colon after a name -/
  | colon
  /-- a comma or the end of the innermost container -/
  | separator
  /-- the end of the text -/
  | finish (d : Document)

/-- The state between two tokens: what may come next and the containers that are open. -/
structure Progress where
  place : Place
  stack : List Open

namespace Progress

/-- The state at the start of a text. -/
def start : Progress :=
  ⟨.value, []⟩

/-- Adds a complete value to the innermost container. -/
def supply (d : Document) : List Open → Progress
  | [] => ⟨.finish d, []⟩
  | .array items :: stack => ⟨.separator, .array (d :: items) :: stack⟩
  | .object members name :: stack => ⟨.separator, .object ((name, d) :: members) none :: stack⟩

/-- The members of an object, if every name is readable. -/
def namedMembers? (members : List (Option String × Document)) :
    Option (List (String × Document)) :=
  members.mapM fun (name, d) => name.map (·, d)

/-- The document of a closed container, `depth` containers deep. -/
def close (depth : Nat) (container : Open) : Document :=
  if greatestDepth < depth then .unreadable
  else match container with
    | .array items => .array items.reverse
    | .object members _ =>
      match namedMembers? members.reverse with
      | some ms => .object ms
      | none => .unreadable

/-- The document of a token that is a whole value. -/
def leaf? : Token → Option Document
  | .null => some .null
  | .bool b => some (.bool b)
  | .number (some n) => some (.number n)
  | .number none => some .unreadable
  | .string (some s) => some (.string s)
  | .string none => some .unreadable
  | _ => none

/-- Reads a token where a value may stand. -/
def readValue? (stack : List Open) : Token → Option Progress
  | .openBracket => some ⟨.firstItem, .array [] :: stack⟩
  | .openBrace => some ⟨.firstName, .object [] none :: stack⟩
  | t => (leaf? t).map (supply · stack)

/-- Reads a token where a name must stand. -/
def readName? (stack : List Open) (t : Token) : Option Progress :=
  match t, stack with
  | .string s, .object members _ :: stack => some ⟨.colon, .object members s :: stack⟩
  | _, _ => none

/-- Ends the innermost container. -/
def readEnd? : List Open → Option Progress
  | [] => none
  | container :: stack => some (supply (close (stack.length + 1) container) stack)

/-- Reads one token. -/
def read? (p : Progress) (t : Token) : Option Progress :=
  match p.place with
  | .value => readValue? p.stack t
  | .firstItem => if t = .closeBracket then readEnd? p.stack else readValue? p.stack t
  | .firstName => if t = .closeBrace then readEnd? p.stack else readName? p.stack t
  | .name => readName? p.stack t
  | .colon => if t = .colon then some ⟨.value, p.stack⟩ else none
  -- what may come after a value depends on the container that it stands in
  | .separator =>
    match t, p.stack with
    | .comma, .array _ :: _ => some ⟨.value, p.stack⟩
    | .comma, .object _ _ :: _ => some ⟨.name, p.stack⟩
    | .closeBracket, .array _ :: _ => readEnd? p.stack
    | .closeBrace, .object _ _ :: _ => readEnd? p.stack
    | _, _ => none
  | .finish _ => none

/-- The document that has been read, if the text may end here. -/
def finished? (p : Progress) : Option Document :=
  match p.place with
  | .finish d => some d
  | _ => none

end Progress

/-- Reads a JSON text. -/
def Document.read? (text : String) : Option Document := do
  let tokens ← tokens? text.toList
  let last ← tokens.foldlM Progress.read? .start
  last.finished?

/-- Reads a JSON text for its meaning. -/
def Value.read? (text : String) : Option Value := do
  let d ← Document.read? text
  d.value?

end Sluice.Json
