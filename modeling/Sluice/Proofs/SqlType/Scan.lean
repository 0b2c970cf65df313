import Sluice.SqlType.Syntax

/-!
# Reading types byte by byte

The reader of types as it goes over the bytes of a text. All that it keeps is a position, which it
moves by lengths in bytes, and every look at the text is a slice of it from that position. A slice
that begins or ends inside of a character, or beyond the end, is broken, and so is a length that
comes out below zero: there is no way to go on. Calls within calls and turns of a loop are counted
against a bound, as nothing in a number tells how much of the text is left.

The positions that have been passed are noted, so that they can be spoken of.

## Main definitions

* `Text.fromByte?`, `Text.untilByte?`: slices of a text, which may be broken.
* `Scan`, `Trail`, `Halt`: a step over the text, the positions passed, and how a step may end early.
* `Scan.type`, `Scan.whole`: the reader of types.

## Main statements

* `Text.fromByte?_eq_some_iff`: a slice is not broken between characters.
-/

namespace Sluice

/-! ## Bytes -/

@[simp]
theorem utf8Length_nil : utf8Length [] = 0 :=
  rfl

@[simp]
theorem utf8Length_cons (c : Char) (cs : List Char) :
    utf8Length (c :: cs) = c.utf8Size + utf8Length cs :=
  rfl

@[simp]
theorem utf8Length_append (cs ds : List Char) :
    utf8Length (cs ++ ds) = utf8Length cs + utf8Length ds := by
  induction cs with
  | nil => simp
  | cons c cs ih => rw [List.cons_append, utf8Length_cons, utf8Length_cons, ih, Nat.add_assoc]

/-- A text of no bytes has no characters. -/
@[simp]
theorem utf8Length_eq_zero_iff {cs : List Char} : utf8Length cs = 0 ↔ cs = [] := by
  cases cs with
  | nil => simp
  | cons c cs =>
    have := c.utf8Size_pos
    simp only [utf8Length_cons, reduceCtorEq, iff_false]
    omega

namespace Text

/-- The slice of a text from a byte on. -/
def fromByte? : List Char → Nat → Option (List Char)
  | cs, 0 => some cs
  | [], _ + 1 => none
  | c :: cs, n + 1 => if c.utf8Size ≤ n + 1 then fromByte? cs (n + 1 - c.utf8Size) else none

/-- The slice of a text up to a byte. -/
def untilByte? : List Char → Nat → Option (List Char)
  | _, 0 => some []
  | [], _ + 1 => none
  | c :: cs, n + 1 =>
    if c.utf8Size ≤ n + 1 then (untilByte? cs (n + 1 - c.utf8Size)).map (c :: ·) else none

/-- A text without a character that it begins with. -/
def stripPrefix? (mark : Char) : List Char → Option (List Char)
  | [] => none
  | c :: cs => if c = mark then some cs else none

/-- The byte at which the first character of a class begins. -/
def findByte? (p : Char → Bool) : List Char → Option Nat
  | [] => none
  | c :: cs => if p c then some 0 else (findByte? p cs).map (c.utf8Size + ·)

/-- The characters of a text with the bytes at which they begin, counted from a start. -/
def byteIndices (start : Nat) : List Char → List (Nat × Char)
  | [] => []
  | c :: cs => (start, c) :: byteIndices (start + c.utf8Size) cs

variable {p : Char → Bool} {cs before rest : List Char} {n : Nat}

/-- A step over one character, in either slice. -/
theorem fromByte?_cons (c : Char) (cs : List Char) (n : Nat) :
    fromByte? (c :: cs) (c.utf8Size + n) = fromByte? cs n := by
  have size := c.utf8Size_pos
  obtain ⟨k, hk⟩ : ∃ k, c.utf8Size + n = k + 1 := ⟨c.utf8Size + n - 1, by omega⟩
  rw [hk, fromByte?, if_pos (by omega)]
  congr 1
  omega

theorem untilByte?_cons (c : Char) (cs : List Char) (n : Nat) :
    untilByte? (c :: cs) (c.utf8Size + n) = (untilByte? cs n).map (c :: ·) := by
  have size := c.utf8Size_pos
  obtain ⟨k, hk⟩ : ∃ k, c.utf8Size + n = k + 1 := ⟨c.utf8Size + n - 1, by omega⟩
  rw [hk, untilByte?, if_pos (by omega)]
  congr 2
  omega

@[simp]
theorem fromByte?_append : fromByte? (before ++ rest) (utf8Length before) = some rest := by
  induction before with
  | nil => exact fromByte?.eq_1 rest
  | cons c before ih => rw [List.cons_append, utf8Length_cons, fromByte?_cons, ih]

@[simp]
theorem untilByte?_append : untilByte? (before ++ rest) (utf8Length before) = some before := by
  induction before with
  | nil => exact untilByte?.eq_1 rest
  | cons c before ih =>
    rw [List.cons_append, utf8Length_cons, untilByte?_cons, ih, Option.map_some]

theorem untilByte?_of_beginning (h : before <+: cs) :
    untilByte? cs (utf8Length before) = some before := by
  obtain ⟨rest, rfl⟩ := h
  exact untilByte?_append

/-- A slice of a text is not broken when it begins after some of the characters, and then it holds
the others. -/
theorem fromByte?_eq_some_iff :
    fromByte? cs n = some rest ↔ ∃ before, cs = before ++ rest ∧ n = utf8Length before := by
  constructor
  · intro h
    -- a slice begins after whole characters, or it would be broken
    fun_induction fromByte? cs n with
    | case1 cs => exact ⟨[], by simpa using h, rfl⟩
    | case2 => cases h
    | case3 c cs n fits ih =>
      obtain ⟨before, rfl, left⟩ := ih h
      refine ⟨c :: before, rfl, ?_⟩
      rw [utf8Length_cons, ← left]
      omega
    | case4 => cases h
  · rintro ⟨before, rfl, rfl⟩
    exact fromByte?_append

/-- The first character of a class is found after the run of the others. -/
theorem findByte?_eq (p : Char → Bool) (cs : List Char) :
    findByte? p cs =
      if cs.dropWhile (!p ·) = [] then none else some (utf8Length (cs.takeWhile (!p ·))) := by
  induction cs with
  | nil => rfl
  | cons c cs ih =>
    by_cases found : p c
    · simp [findByte?, found]
    · rw [findByte?, if_neg found, ih, List.dropWhile_cons_of_pos (by simp [found]),
        List.takeWhile_cons_of_pos (by simp [found])]
      split <;> rfl

/-- Where no such character is found, the run is the whole text. -/
theorem getD_findByte? (p : Char → Bool) (cs : List Char) :
    (findByte? p cs).getD (utf8Length cs) = utf8Length (cs.takeWhile (!p ·)) := by
  rw [findByte?_eq]
  split
  · rename_i none
    rw [Option.getD_none]
    have whole : cs.takeWhile (!p ·) ++ cs.dropWhile (!p ·) = cs :=
      List.takeWhile_append_dropWhile
    rw [none, List.append_nil] at whole
    rw [whole]
  · rfl

/-- The first character after the digits of a number, if the number does not begin there. -/
theorem find?_byteIndices (start : Nat) (after : start ≠ 0) (cs : List Char) :
    ((byteIndices start cs).find? fun (i, c) => !(c.isDigit || (i == 0 && c == '-'))).elim
      (start + utf8Length cs) (·.1) = start + utf8Length (cs.takeWhile Char.isDigit) := by
  -- by the characters, the first of which stops the search if it is no digit
  induction cs generalizing start with
  | nil => rfl
  | cons c cs ih =>
    have size := c.utf8Size_pos
    by_cases digit : c.isDigit
    · rw [byteIndices, List.find?_cons_of_neg (by simp [digit]), List.takeWhile_cons_of_pos digit,
        utf8Length_cons, utf8Length_cons, ← Nat.add_assoc, ← Nat.add_assoc]
      exact ih _ (by omega)
    · rw [byteIndices, List.find?_cons_of_pos (by simp [digit, after]),
        List.takeWhile_cons_of_neg digit]
      rfl

end Text

/-! ## Steps -/

/-- How a scan may end before its time. -/
inductive Halt where
  /-- the text is not a type -/
  | refused (e : TypeError)
  /-- there is a broken slice, or a length below zero -/
  | broken
  /-- more calls within calls, or turns of a loop, than the bound allows -/
  | unfinished

/-- The position, and the positions that it has had, the last one first. -/
structure Trail where
  position : Nat
  passed : List Nat

/-- A step over a text: it answers a value or halts, and leaves a trail in any case. No step moves
back. -/
structure Scan (α : Type) where
  run : Trail → Except Halt α × Trail
  grows : ∀ trail, trail.position ≤ (run trail).2.position

namespace Scan

variable {α β : Type}

/-- What is run after a step, given what has come of that. -/
def andThen (f : α → Scan β) : Except Halt α × Trail → Except Halt β × Trail
  | (.ok a, trail) => (f a).run trail
  | (.error halt, trail) => (.error halt, trail)

theorem position_le_andThen (f : α → Scan β) (outcome : Except Halt α × Trail) :
    outcome.2.position ≤ (andThen f outcome).2.position := by
  obtain ⟨halt | a, trail⟩ := outcome
  · exact Nat.le_refl _
  · exact (f a).grows trail

instance : Monad Scan where
  pure a := ⟨fun trail => (.ok a, trail), fun _ => Nat.le_refl _⟩
  bind m f := ⟨fun trail => andThen f (m.run trail),
    fun trail => Nat.le_trans (m.grows trail) (position_le_andThen f _)⟩

/-- Halts. -/
def halt (h : Halt) : Scan α :=
  ⟨fun trail => (.error h, trail), fun _ => Nat.le_refl _⟩

/-- Halts because the text is not a type. -/
def refuse (text : String) (fault : SyntaxFault) : Scan α :=
  halt (.refused (.malformed text fault))

/-- The value that there is, if there is one. -/
def value (h : Halt) : Option α → Scan α
  | some a => pure a
  | none => halt h

/-- The position. -/
def position : Scan Nat :=
  ⟨fun trail => (.ok trail.position, trail), fun _ => Nat.le_refl _⟩

/-- Moves the position. -/
def advance (bytes : Nat) : Scan Unit where
  run trail := (.ok (), ⟨trail.position + bytes, trail.position :: trail.passed⟩)
  grows _ := Nat.le_add_right _ _

/-! ## Tokens -/

variable (text : String)

/-- The slice of the text from the position on. -/
def rest : Scan (List Char) := do
  value .broken (Text.fromByte? text.toList (← position))

/-- Moves over blanks, by what the text gets shorter when they are trimmed. -/
def skipBlanks : Scan Unit := do
  let rest ← rest text
  let trimmed := utf8Length (Text.trimStart rest)
  if trimmed ≤ utf8Length rest then advance (utf8Length rest - trimmed) else halt .broken

/-- The character after blanks. -/
def peek : Scan (Option Char) := do
  skipBlanks text
  return (← rest text).head?

/-- Moves over a punctuation character, if it comes next. -/
def consume (ch : Char) : Scan Bool := do
  if (← peek text) = some ch then
    advance ch.utf8Size
    return true
  return false

/-- Moves over a punctuation character, which must come next. -/
def expect (ch : Char) : Scan Unit := do
  if !(← consume text ch) then refuse text (.expectedChar ch (← position))

/-- Reads the rest of an identifier after a backquote. -/
def quotedIdentifier (quoted : List Char) : Scan String :=
  match Text.findByte? (· == backquote) quoted with
  | none => refuse text .unterminatedQuote
  | some bytes => do
    advance (bytes + 2)
    return .ofList (← value .broken (Text.untilByte? quoted bytes))

/-- Reads an identifier that is not quoted. -/
def plainIdentifier (rest : List Char) : Scan String := do
  let bytes := (Text.findByte? (!Text.isIdentifierChar ·) rest).getD (utf8Length rest)
  if bytes = 0 then refuse text (.expectedIdentifier (← position))
  advance bytes
  return .ofList (← value .broken (Text.untilByte? rest bytes))

/-- Reads an identifier. -/
def identifier : Scan String := do
  skipBlanks text
  let rest ← rest text
  match Text.stripPrefix? backquote rest with
  | some quoted => quotedIdentifier text quoted
  | none => plainIdentifier text rest

/-- Reads a whole number. -/
def integer : Scan Int := do
  skipBlanks text
  let rest ← rest text
  let mark := (Text.byteIndices 0 rest).find? fun (i, c) => !(c.isDigit || (i == 0 && c == '-'))
  let bytes := mark.elim (utf8Length rest) (·.1)
  match Text.readInt32? (← value .broken (Text.untilByte? rest bytes)) with
  | none => refuse text (.expectedInteger (← position))
  | some n =>
    advance bytes
    return n

/-! ## Types -/

/-- A turn of the loop over parameters: a comma and a whole number, or nothing at its end. -/
def parameter : Scan (Option Int) := do
  if ← consume text ',' then return some (← integer text)
  return none

/-- The loop over parameters, and the parenthesis after it. -/
def parameters : Nat → Scan (List Int)
  | 0 => halt .unfinished
  | turns + 1 => do
    match ← parameter text with
    | some n => return n :: (← parameters turns)
    | none =>
      expect text ')'
      return []

/-- Reads a parameter list after its opening parenthesis. -/
def integers (turns : Nat) : Scan (List Int) := do
  let first ← integer text
  return first :: (← parameters text turns)

/-- The primitive type of a name. -/
def ofName (name : String) (parameters : Option (List Int)) : Scan SqlType :=
  match Primitive.ofName (expandTypeName (Text.asciiUpper name)) parameters with
  | .ok p => pure (.primitive p)
  | .error e => halt (.refused (.primitive e))

/-- Reads the rest of a primitive type whose name has been read. -/
def primitiveAfter (turns : Nat) (name : String) : Scan SqlType := do
  if ← consume text '(' then ofName name (some (← integers text turns)) else ofName name none

/-- A turn of the loop over fields, given the reader of their types: a field, and whether the
bracket comes after it. -/
def field (type : Scan SqlType) : Scan (Field × Bool) := do
  let name ← identifier text
  let type ← type
  if ← consume text '>' then return ((name, type), true)
  expect text ','
  return ((name, type), false)

mutual

/-- Reads a type. -/
def type : Nat → Scan SqlType
  | 0 => halt .unfinished
  | bound + 1 => do
    let name ← identifier text
    if Text.asciiUpper name = "ARRAY" then
      expect text '<'
      let element ← type bound
      expect text '>'
      return .array element
    else if Text.asciiUpper name = "MAP" then
      expect text '<'
      match ← type bound with
      | .primitive key =>
        expect text ','
        let value ← type bound
        expect text '>'
        return .map key value
      | other => refuse text (.compositeKey other)
    else if Text.asciiUpper name = "STRUCT" then
      expect text '<'
      if ← consume text '>' then return .struct []
      return .struct (← fields bound)
    else
      primitiveAfter text bound name

/-- The loop over fields. -/
def fields : Nat → Scan RowType
  | 0 => halt .unfinished
  | bound + 1 => do
    let field ← field text (type bound)
    if field.2 then return [field.1]
    return field.1 :: (← fields bound)

end

/-- Reads a text that is a type and nothing else. -/
def whole (bound : Nat) : Scan SqlType := do
  let type ← type text bound
  skipBlanks text
  if (← position) ≠ utf8Length text.toList then refuse text .trailingText
  return type

end Scan

end Sluice
