import Sluice.Proofs.SqlType.Completeness
import Sluice.Proofs.SqlType.Positions

/-!
# Reading types is safe

The scan over the bytes of a text ends as the reader of types does, with the same type or the same
fault. So no slice is ever broken, whatever the text is, and as the reader leaves less of the text
at every step, a bound above the length of the text is never reached. How deep a text may nest for
the memory of a machine is not considered.

## Main definitions

* `Scan.Advances`: a scan that ends with an answer has moved on.

## Main statements

* `Scan.mirrors_types`: types and the fields of structs.
* `Scan.safe`: a text is read to an end, and what is read of it moves on.
-/

namespace Sluice

open Text

variable {α β : Type} {chars : List Char} {c : Cursor} {text : String}

/-- A turn of the loop over fields: a field, and whether the bracket comes after it. -/
def Cursor.field (text : String) (c : Cursor) : Except TypeError (Reading (Field × Bool) c) := do
  let name ← c.identifier text
  let type ← name.next.type text
  match type.next.punctuation? '>' with
  | some closing =>
    return name.after (type.after (closing.map fun _ => ((name.value, type.value), true)))
  | none =>
    let comma ← type.next.expect text ','
    return name.after (type.after (comma.map fun _ => ((name.value, type.value), false)))

/-- Fields are read turn by turn. -/
theorem Cursor.fields_eq (text : String) (c : Cursor) : c.fields text = (do
    let field ← c.field text
    if field.value.2 then return field.map fun turn => [turn.1]
    else
      let more ← field.next.fields text
      return field.after (more.map (field.value.1 :: ·))) := by
  rw [Cursor.fields, Cursor.field]
  -- both read a name, a type and then a bracket or a comma
  dsimp only [bind, Except.bind]
  cases c.identifier text with
  | error e => rfl
  | ok name =>
    dsimp only
    cases name.next.type text with
    | error e => rfl
    | ok type =>
      dsimp only
      cases type.next.punctuation? '>' with
      | some closing => rfl
      | none =>
        dsimp only
        cases type.next.expect text ',' with
        | error e => rfl
        | ok comma => rfl

namespace Scan

variable {m : Scan α} {a : α}

/-! ## Tokens -/

theorem mirrors_peek : Mirrors text.toList (peek text) c
    (.ok (c.skipBlanks.rest.head?, c.skipBlanks)) :=
  mirrors_skipBlanks.andThen (mirrors_rest.andThen (mirrors_pure _ _))

/-- The place after punctuation. -/
theorem split_of_punctuation? {ch : Char} {r : Reading Unit c} (h : c.punctuation? ch = some r) :
    c.skipBlanks.rest = ch :: r.next.rest ∧
      r.next = ⟨c.skipBlanks.position + ch.utf8Size, r.next.rest⟩ := by
  refine ⟨Cursor.token_of_punctuation? h, ?_⟩
  unfold Cursor.punctuation? at h
  split at h
  · split at h
    · obtain rfl := Option.some.inj h
      rfl
    · cases h
  · cases h

/-- Punctuation is moved over if it comes next. If not, only the blanks before it are skipped. -/
theorem mirrors_consume (ch : Char) : Mirrors text.toList (consume text ch) c
    (.ok ((c.punctuation? ch).elim (false, c.skipBlanks) fun r => (true, r.next))) := by
  refine mirrors_peek.andThen ?_
  -- the character that comes next decides, once the blanks are skipped
  cases found : c.punctuation? ch with
  | some r =>
    obtain ⟨split, next⟩ := split_of_punctuation? found
    have split : c.skipBlanks.rest = [ch] ++ r.next.rest := split
    rw [if_pos (by rw [split]; rfl), Option.elim_some, next]
    exact (mirrors_advance split rfl).andThen (mirrors_pure _ _)
  | none =>
    -- otherwise the character would have been found
    have other : c.skipBlanks.rest.head? ≠ some ch := by
      intro head
      obtain ⟨rest, hrest⟩ := List.head?_eq_some_iff.mp head
      obtain ⟨r, some, -⟩ := Cursor.punctuation?_of_token hrest
      cases found.symm.trans some
    rw [if_neg other]
    exact mirrors_pure _ _

/-- A scan goes on as the reader does, with punctuation or without it. -/
theorem Mirrors.ite_consume {ch : Char} {yes no : Scan β} {step : Except TypeError (β × Cursor)}
    (found : ∀ r, c.punctuation? ch = some r → Mirrors text.toList yes r.next step)
    (none : c.punctuation? ch = none → Mirrors text.toList no c step) :
    Mirrors text.toList (consume text ch >>= fun b => if b = true then yes else no) c step := by
  apply Mirrors.of_on
  intro onText
  refine (mirrors_consume ch).andThen ?_
  cases comes : c.punctuation? ch with
  | some r => exact found r comes
  | none => exact (none comes).skipped onText

/-- Punctuation that must come next. -/
theorem mirrors_expect (ch : Char) : Mirrors text.toList (expect text ch) c
    ((c.expect text ch).map Reading.pair) := by
  unfold Cursor.expect
  refine (mirrors_consume ch).andThen ?_
  cases c.punctuation? ch with
  | some r => exact mirrors_pure _ _
  | none => exact (mirrors_position _).andThen (mirrors_halt _ _)

/-! ### Identifiers -/

/-- An identifier after a backquote ends at the next one, or not at all. -/
theorem mirrors_quotedIdentifier {quoted : List Char}
    (opening : c.skipBlanks.rest = backquote :: quoted) :
    Mirrors text.toList (quotedIdentifier text quoted) c.skipBlanks
      ((c.identifier text).map Reading.pair) := by
  unfold Cursor.identifier
  -- the text goes on with the quote that opens
  split
  · rename_i none
    cases opening.symm.trans none
  · rename_i first rest hrest
    obtain ⟨rfl, rfl⟩ := List.cons.inj (hrest.symm.trans opening)
    have bytes : findByte? (· == backquote) rest = if rest.dropWhile (· != backquote) = [] then none
        else some (utf8Length (rest.takeWhile (· != backquote))) := findByte?_eq _ _
    rw [if_pos rfl]
    split
    · -- no quote ends the name, so both are at fault
      rename_i none
      rw [quotedIdentifier, bytes, if_pos none]
      exact mirrors_halt _ _
    · rename_i mark after hafter
      -- the name is followed by the backquote that ends it
      obtain rfl : mark = backquote := by simpa using Cursor.head_dropWhile hafter
      have closing : rest.takeWhile (· != backquote) ++ backquote :: after = rest := by
        rw [← hafter, List.takeWhile_append_dropWhile]
      have some : rest.dropWhile (· != backquote) ≠ [] := by
        rw [hafter]
        exact List.cons_ne_nil _ _
      rw [quotedIdentifier, bytes, if_neg some]
      show Mirrors _ _ _ (.ok (String.ofList (rest.takeWhile (· != backquote)),
        ⟨c.skipBlanks.position + (utf8Length (rest.takeWhile (· != backquote)) + 2), after⟩))
      dsimp only
      generalize rest.takeWhile (· != backquote) = name at closing ⊢
      have split : c.skipBlanks.rest = (backquote :: name ++ [backquote]) ++ after := by
        -- the bytes to move over are the name with its two quotes
        simp [opening, closing]
      have length : utf8Length name + 2 = utf8Length (backquote :: name ++ [backquote]) := by
        have size : backquote.utf8Size = 1 := by decide
        simp only [List.cons_append, utf8Length_cons, utf8Length_append, utf8Length_nil, size]
        omega
      refine (mirrors_advance split length).andThen ?_
      rw [untilByte?_of_beginning ⟨_, closing⟩]
      exact mirrors_pure _ _

/-- An identifier that is not quoted is a run of characters, and has one at least. -/
theorem mirrors_plainIdentifier (plain : stripPrefix? backquote c.skipBlanks.rest = none) :
    Mirrors text.toList (plainIdentifier text c.skipBlanks.rest) c.skipBlanks
      ((c.identifier text).map Reading.pair) := by
  have bytes : (findByte? (!isIdentifierChar ·) c.skipBlanks.rest).getD
      (utf8Length c.skipBlanks.rest) =
        utf8Length (c.skipBlanks.rest.takeWhile isIdentifierChar) := by
    simpa using getD_findByte? (!isIdentifierChar ·) c.skipBlanks.rest
  -- without any character there is no name
  have fails (none : c.skipBlanks.rest.takeWhile isIdentifierChar = []) :
      Mirrors text.toList (plainIdentifier text c.skipBlanks.rest) c.skipBlanks
        (.error (.malformed text (.expectedIdentifier c.skipBlanks.position))) := by
    rw [plainIdentifier, bytes, none]
    exact (mirrors_position _).andThen (mirrors_halt _ _)
  unfold Cursor.identifier
  split
  · rename_i none
    exact fails (by simp [none])
  · rename_i first rest hrest
    split
    · rename_i quote
      simp [hrest, quote, stripPrefix?] at plain
    · split
      · -- the name takes as many bytes as it has characters of the right kind
        rename_i identifierChar
        have some : c.skipBlanks.rest.takeWhile isIdentifierChar ≠ [] := by
          simp [hrest, identifierChar]
        have split : c.skipBlanks.rest = c.skipBlanks.rest.takeWhile isIdentifierChar ++
            (c.skipBlanks.skip isIdentifierChar).rest := List.takeWhile_append_dropWhile.symm
        rw [plainIdentifier, bytes, if_neg (mt utf8Length_eq_zero_iff.mp some)]
        refine (mirrors_advance split rfl).andThen ?_
        rw [untilByte?_of_beginning (List.takeWhile_prefix _)]
        show Mirrors _ _ _ (.ok (String.ofList ((first :: rest).takeWhile isIdentifierChar),
          c.skipBlanks.skip isIdentifierChar))
        rw [← hrest]
        exact mirrors_pure _ _
      · rename_i other
        exact fails (by simp [hrest, other])

theorem mirrors_identifier : Mirrors text.toList (identifier text) c
    ((c.identifier text).map Reading.pair) := by
  refine mirrors_skipBlanks.andThen (mirrors_rest.andThen ?_)
  cases quote : stripPrefix? backquote c.skipBlanks.rest with
  | none => exact mirrors_plainIdentifier quote
  | some quoted =>
    apply mirrors_quotedIdentifier
    revert quote
    cases c.skipBlanks.rest <;> simp +contextual [stripPrefix?]

/-! ### Numbers -/

/-- The bytes taken up by a whole number are found by the first character that is not of it. -/
theorem elim_find?_byteIndices (cs : List Char) :
    ((byteIndices 0 cs).find? fun (i, c) => !(c.isDigit || (i == 0 && c == '-'))).elim
      (utf8Length cs) (·.1) = utf8Length (integerText cs) := by
  cases cs with
  | nil => rfl
  | cons c cs =>
    -- after the first character a sign does not count any more
    have later := find?_byteIndices c.utf8Size c.utf8Size_pos.ne' cs
    by_cases minus : c = '-'
    · obtain rfl := minus
      rw [byteIndices, List.find?_cons_of_neg (by simp), Nat.zero_add, utf8Length_cons, later]
      rfl
    · have plain : integerText (c :: cs) = (c :: cs).takeWhile Char.isDigit := by
        unfold integerText
        split
        · rename_i same
          exact absurd (List.cons.inj same).1 minus
        · rfl
      rw [plain]
      by_cases digit : c.isDigit
      · rw [byteIndices, List.find?_cons_of_neg (by simp [digit]), Nat.zero_add, utf8Length_cons,
          later, List.takeWhile_cons_of_pos digit, utf8Length_cons]
      · rw [byteIndices, List.find?_cons_of_pos (by simp [digit, minus]),
          List.takeWhile_cons_of_neg digit]
        rfl

theorem mirrors_integer : Mirrors text.toList (integer text) c
    ((c.integer text).map Reading.pair) := by
  refine mirrors_skipBlanks.andThen (mirrors_rest.andThen ?_)
  have starts := Cursor.integerText_prefix c.skipBlanks.rest
  dsimp only
  rw [elim_find?_byteIndices, untilByte?_of_beginning starts]
  refine (mirrors_pure _ _).andThen ?_
  unfold Cursor.integer
  dsimp only
  -- the number is read in the same way, so both are at fault or neither is
  split
  · rename_i none
    split
    · rename_i some
      cases none.symm.trans some
    · exact (mirrors_position _).andThen (mirrors_halt _ _)
  · rename_i n some
    split
    · rename_i m same
      obtain rfl := Option.some.inj (some.symm.trans same)
      have split := (List.prefix_iff_eq_append.mp starts).symm
      exact (mirrors_advance split rfl).andThen (mirrors_pure _ _)
    · rename_i none
      cases some.symm.trans none

/-! ## Types -/

/-- A turn of the loop over parameters. -/
theorem mirrors_parameter : Mirrors text.toList (parameter text) c
    (match c.punctuation? ',' with
    | some comma => (comma.next.integer text).map fun n => (some n.value, n.next)
    | none => .ok (none, c)) := by
  apply Mirrors.ite_consume
  · intro comma found
    rw [found]
    dsimp only
    rw [← bind_pure (comma.next.integer text)]
    exact mirrors_integer.read fun n _ => mirrors_pure _ _
  · intro none
    rw [none]
    exact mirrors_pure _ _

/-- The loop over parameters. -/
theorem mirrors_parameters {turns : Nat} (enough : c.rest.length < turns) :
    Mirrors text.toList (parameters text turns) c ((c.moreIntegers text).map Reading.pair) := by
  -- by the turns, each of which uses up a part of the text
  induction turns generalizing c with
  | zero => exact absurd enough (Nat.not_lt_zero _)
  | succ turns ih =>
    have turn : Mirrors text.toList (parameter text) c _ := mirrors_parameter
    rw [Cursor.moreIntegers]
    split
    · rename_i comma found
      rw [found] at turn
      refine turn.bind ?_
      intro n _
      -- after a comma and a number there is less left than turns
      have left : n.next.rest.length < turns := by
        have := comma.shorter
        have := n.shorter
        omega
      refine (ih left).read ?_
      intro more _
      exact mirrors_pure _ _
    · rename_i none
      rw [none] at turn
      refine turn.andThen ((mirrors_expect ')').read ?_)
      intro closing _
      exact mirrors_pure _ _

theorem mirrors_integers {turns : Nat} (enough : c.rest.length < turns) :
    Mirrors text.toList (integers text turns) c ((c.integers text).map Reading.pair) := by
  unfold Cursor.integers
  refine mirrors_integer.read ?_
  intro n _
  refine (mirrors_parameters (n.shorter.trans enough)).read ?_
  intro more _
  exact mirrors_pure _ _

/-- The primitive type of a name, where a reading ends with it. -/
theorem mirrors_ofName {chars : List Char} (name : String) (parameters : Option (List Int))
    (reading : SqlType → Reading SqlType c) (ends : ∀ type, (reading type).pair = (type, next)) :
    Mirrors chars (ofName name parameters) next
      ((do
        let type ← (Primitive.ofName (expandTypeName (asciiUpper name)) parameters).map .primitive
          |>.mapError .primitive
        return reading type : Except TypeError (Reading SqlType c)).map Reading.pair) := by
  unfold ofName
  cases Primitive.ofName (expandTypeName (asciiUpper name)) parameters with
  | error e => exact mirrors_halt _ _
  | ok p =>
    show Mirrors _ _ _ (.ok (reading (.primitive p)).pair)
    rw [ends]
    exact mirrors_pure _ _

theorem mirrors_primitiveAfter {turns : Nat} (name : Reading String c)
    (enough : name.next.rest.length < turns) :
    Mirrors text.toList (primitiveAfter text turns name.value) name.next
      ((c.primitiveAfter text name).map Reading.pair) := by
  unfold Cursor.primitiveAfter
  apply Mirrors.ite_consume
  · intro opening found
    dsimp only
    rw [found]
    refine (mirrors_integers (opening.shorter.trans enough)).read ?_
    intro parameters _
    exact mirrors_ofName name.value (some parameters.value)
      (fun type => name.after (opening.after (parameters.map fun _ => type))) fun _ => rfl
  · intro none
    dsimp only
    rw [none]
    exact mirrors_ofName name.value Option.none (fun type => name.map fun _ => type) fun _ => rfl

/-- A turn of the loop over fields, with a reader of types. -/
theorem mirrors_field {type : Scan SqlType} (typed : ∀ d : Cursor, d.rest.length < c.rest.length →
      Mirrors text.toList type d ((d.type text).map Reading.pair)) :
    Mirrors text.toList (field text type) c ((c.field text).map Reading.pair) := by
  unfold Cursor.field
  refine mirrors_identifier.read ?_
  intro name _
  refine (typed name.next name.shorter).read ?_
  intro type _
  -- the field is followed by a bracket, and was the last one, or by a comma
  apply Mirrors.ite_consume
  · intro closing found
    rw [found]
    exact mirrors_pure _ _
  · intro none
    rw [none]
    refine (mirrors_expect ',').read ?_
    intro comma _
    exact mirrors_pure _ _

/-- A type, where types and fields are mirrored with less of the text left. -/
theorem mirrors_type_succ {bound : Nat} (typed : ∀ d : Cursor, d.rest.length < c.rest.length →
      Mirrors text.toList (type text bound) d ((d.type text).map Reading.pair))
    (fielded : ∀ d : Cursor, d.rest.length < c.rest.length →
      Mirrors text.toList (fields text bound) d ((d.fields text).map Reading.pair))
    (enough : c.rest.length ≤ bound) :
    Mirrors text.toList (type text (bound + 1)) c ((c.type text).map Reading.pair) := by
  rw [Cursor.type, type]
  refine mirrors_identifier.read ?_
  intro name _
  have := name.shorter
  -- the name decides how it goes on
  by_cases array : asciiUpper name.value = "ARRAY"
  · rw [if_pos array, if_pos array]
    refine (mirrors_expect '<').read ?_
    intro opening _
    have := opening.shorter
    refine (typed opening.next (by omega)).read ?_
    intro element _
    refine (mirrors_expect '>').read ?_
    intro closing _
    exact mirrors_pure _ _
  rw [if_neg array, if_neg array]
  by_cases map : asciiUpper name.value = "MAP"
  · rw [if_pos map, if_pos map]
    refine (mirrors_expect '<').read ?_
    intro opening _
    have := opening.shorter
    refine (typed opening.next (by omega)).read ?_
    intro key _
    have := key.shorter
    -- only a primitive key goes on
    cases key.value with
    | primitive k =>
      refine (mirrors_expect ',').read ?_
      intro comma _
      have := comma.shorter
      refine (typed comma.next (by omega)).read ?_
      intro value _
      refine (mirrors_expect '>').read ?_
      intro closing _
      exact mirrors_pure _ _
    | array element => exact mirrors_halt _ _
    | map k value => exact mirrors_halt _ _
    | struct row => exact mirrors_halt _ _
  rw [if_neg map, if_neg map]
  by_cases struct : asciiUpper name.value = "STRUCT"
  · rw [if_pos struct, if_pos struct]
    refine (mirrors_expect '<').read ?_
    intro opening _
    have := opening.shorter
    apply Mirrors.ite_consume
    · intro closing found
      dsimp only
      rw [found]
      exact mirrors_pure _ _
    · intro none
      dsimp only
      rw [none]
      refine (fielded opening.next (by omega)).read ?_
      intro fields _
      exact mirrors_pure _ _
  · rw [if_neg struct, if_neg struct]
    exact mirrors_primitiveAfter name (by omega)

/-- Fields, where types and fields are mirrored with less of the text left. -/
theorem mirrors_fields_succ {bound : Nat} (typed : ∀ d : Cursor, d.rest.length < c.rest.length →
      Mirrors text.toList (type text bound) d ((d.type text).map Reading.pair))
    (fielded : ∀ d : Cursor, d.rest.length < c.rest.length →
      Mirrors text.toList (fields text bound) d ((d.fields text).map Reading.pair)) :
    Mirrors text.toList (fields text (bound + 1)) c ((c.fields text).map Reading.pair) := by
  rw [Cursor.fields_eq, fields]
  -- after the last field there is nothing more, and before it there is less left
  refine (mirrors_field typed).read ?_
  intro field _
  by_cases last : field.value.2
  · rw [if_pos last, if_pos last]
    exact mirrors_pure _ _
  · rw [if_neg last, if_neg last]
    refine (fielded field.next field.shorter).read ?_
    intro more _
    exact mirrors_pure _ _

/-- Types and fields are scanned as they are read, within a bound above what is left of the text. -/
theorem mirrors_types (bound : Nat) (c : Cursor) (enough : c.rest.length < bound) :
    Mirrors text.toList (type text bound) c ((c.type text).map Reading.pair) ∧
      Mirrors text.toList (fields text bound) c ((c.fields text).map Reading.pair) := by
  induction bound generalizing c with
  | zero => exact absurd enough (Nat.not_lt_zero _)
  | succ bound ih =>
    have enough := Nat.le_of_lt_succ enough
    have typed (d : Cursor) (less : d.rest.length < c.rest.length) :=
      (ih d (less.trans_le enough)).1
    have fielded (d : Cursor) (less : d.rest.length < c.rest.length) :=
      (ih d (less.trans_le enough)).2
    exact ⟨mirrors_type_succ typed fielded enough, mirrors_fields_succ typed fielded⟩

/-! ## Progress -/

/-- Wherever on the text it begins, a scan that ends with the answer has moved on. -/
def Advances (chars : List Char) (m : Scan α) (a : α) : Prop :=
  ∀ trail trail', trail.Sound chars → m.run trail = (.ok a, trail') →
    trail.position < trail'.position

theorem advances_of_mirrors {step : Cursor → Except TypeError (α × Cursor)}
    (mirrors : ∀ c, c.On chars → Mirrors chars m c (step c))
    (shorter : ∀ c next, step c = .ok (a, next) → next.rest.length < c.rest.length) :
    Advances chars m a := by
  intro trail trail' sound run
  obtain ⟨c, at_, position⟩ := sound.exists_cursor
  have ended := (mirrors c at_.onText).agrees trail at_
  rw [run] at ended
  obtain ⟨next, same, at_'⟩ := ended
  rw [position]
  exact (at_.onText.position_lt at_'.onText (shorter c next same)).trans_le at_'.position_le

/-- Every reading leaves less of the text. -/
theorem advances_of_readings {reader : ∀ c, Except TypeError (Reading α c)}
    (mirrors : ∀ c, c.On chars → Mirrors chars m c ((reader c).map Reading.pair)) (a : α) :
    Advances chars m a := by
  apply advances_of_mirrors mirrors
  intro c next same
  obtain ⟨r, -, same⟩ := map_eq_ok_iff.mp same
  obtain ⟨-, rfl⟩ := Prod.mk.inj same
  exact r.shorter

theorem advances_identifier (name : String) : Advances text.toList (identifier text) name :=
  advances_of_readings (fun _ _ => mirrors_identifier) name

theorem advances_integer (n : Int) : Advances text.toList (integer text) n :=
  advances_of_readings (fun _ _ => mirrors_integer) n

theorem advances_parameter (n : Int) : Advances text.toList (parameter text) (some n) := by
  apply advances_of_mirrors fun c _ => mirrors_parameter
  intro c next same
  -- a turn with a number has read a comma and the number
  split at same
  · rename_i comma found
    obtain ⟨r, -, same⟩ := map_eq_ok_iff.mp same
    obtain ⟨-, rfl⟩ := Prod.mk.inj same
    exact r.shorter.trans comma.shorter
  · cases same

/-- What begins with an identifier moves on, as no step after it moves back. -/
theorem advances_identifier_bind (f : String → Scan α) (a : α) :
    Advances text.toList (identifier text >>= f) a := by
  intro trail trail' sound run
  have run : andThen f ((identifier text).run trail) = (.ok a, trail') := run
  have later := position_le_andThen f ((identifier text).run trail)
  rw [run] at later
  cases first : (identifier text).run trail with
  | mk outcome between =>
    rw [first] at run later
    cases outcome with
    | error halt => cases run
    | ok name => exact (advances_identifier name trail between sound first).trans_le later

theorem advances_type (bound : Nat) (t : SqlType) : Advances text.toList (type text bound) t := by
  cases bound with
  | zero =>
    intro trail trail' _ run
    cases run
  | succ bound =>
    rw [type]
    exact advances_identifier_bind _ t

theorem advances_field (bound : Nat) (turn : Field × Bool) :
    Advances text.toList (field text (type text bound)) turn := by
  exact advances_identifier_bind _ turn

/-! ## Whole texts -/

variable {bound : Nat}

/-- A whole text is scanned as it is read, up to its end. -/
theorem mirrors_whole (enough : text.length < bound) :
    Mirrors text.toList (whole text bound) (Cursor.start text)
      ((SqlType.read text).map (·, ⟨utf8Length text.toList, []⟩)) := by
  refine (mirrors_types bound (Cursor.start text) enough).1.read ?_
  intro type _
  apply Mirrors.of_on
  intro onText
  refine mirrors_skipBlanks.andThen ((mirrors_position _).andThen ?_)
  have atEnd : type.next.skipBlanks.position = _ ↔ type.next.skipBlanks.rest = [] :=
    (onText.skip isBlank).position_eq_iff
  dsimp only
  -- what is not at the end is refused, in both
  by_cases none : type.next.skipBlanks.rest = []
  · have position := atEnd.mpr none
    rw [if_neg (not_not_intro position), if_pos (List.isEmpty_iff.mpr none)]
    have place : type.next.skipBlanks = ⟨utf8Length text.toList, []⟩ := by
      rw [← position, ← none]
    rw [place]
    exact mirrors_pure _ _
  · rw [if_pos (mt atEnd.mp none), if_neg (mt List.isEmpty_iff.mp none)]
    exact (mirrors_halt _ _).fault

/-- A text is read to an end, whatever it is: the scan ends as the reader does, with a type or with
the fault of the text, so that no slice is broken, and no call or turn is one too many. -/
theorem run_whole (enough : text.length < bound) :
    ∃ trail, (whole text bound).run ⟨0, []⟩ = ((SqlType.read text).mapError .refused, trail) ∧
      trail.Sound text.toList := by
  have start : Trail.At text.toList ⟨0, []⟩ (Cursor.start text) := by
    refine ⟨⟨?_, List.pairwise_singleton _ _⟩, ⟨[], rfl, rfl⟩, .inl rfl⟩
    intro n first
    obtain rfl := List.mem_singleton.mp first
    exact ⟨[], List.nil_prefix, rfl⟩
  exact ((mirrors_whole enough).agrees _ start).exists_eq

/-- Reading a type is safe. From the start of any text, the scan over its bytes ends, and ends as
the reader does, with a type or a fault, so that no slice was broken on the way. All positions are
lengths in bytes of beginnings of the text made of whole characters, and none is before an earlier
one. Types, identifiers, whole numbers, and the turns of the loops over fields and parameters
advance the position, wherever they are read. -/
theorem safe (text : String) (bound : Nat) (enough : text.length < bound) :
    (∃ trail, (whole text bound).run ⟨0, []⟩ = ((SqlType.read text).mapError .refused, trail) ∧
      trail.Sound text.toList) ∧
    (∀ within t, Advances text.toList (type text within) t) ∧
    (∀ name, Advances text.toList (identifier text) name) ∧
    (∀ n, Advances text.toList (integer text) n) ∧
    (∀ within turn, Advances text.toList (field text (type text within)) turn) ∧
    ∀ n, Advances text.toList (parameter text) (some n) :=
  ⟨run_whole enough, advances_type, advances_identifier, advances_integer, advances_field,
    advances_parameter⟩

/-- A text that is cut off in a quoted name, with a blank of three bytes in it, and with letters of
two and of three. -/
theorem safe_cut_off :
    let text := "STRUCT<größe\u3000ARRAY<DEC(5,1)>, \x60名"
    SqlType.read text = .error (.malformed text .unterminatedQuote) ∧ text.length < 40 ∧
      ∃ trail, (whole text 40).run ⟨0, []⟩ =
          (.error (.refused (.malformed text .unterminatedQuote)), trail) ∧
        trail.Sound text.toList := by
  intro text
  have refused : SqlType.read text = .error (.malformed text .unterminatedQuote) := by
    decide +kernel
  have enough : text.length < 40 := by decide +kernel
  obtain ⟨⟨trail, run, sound⟩, -⟩ := safe text 40 enough
  rw [refused] at run
  exact ⟨refused, enough, trail, run, sound⟩

end Scan

end Sluice
