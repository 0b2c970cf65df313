import Sluice.Proofs.Except
import Sluice.Proofs.SqlType.Grammar
import Sluice.Proofs.Text.Boundary
import Sluice.Proofs.Text.Character

/-!
# What follows the grammar is read

A text that derives a phrase is read as that phrase, whatever text comes after it. One thing has to
be known of what comes after: a type without parameters must not be followed by a parenthesis,
which the reader would take for the start of its parameters.

## Main definitions

* `Cursor.Reads`: a reading step succeeds with the value and the text given.
* `Grammar.Closed`: a text that does not go on with a parameter list.

## Main statements

* `Cursor.reads_of_derives`: what is derived is read.
-/

namespace Sluice

open Grammar Text Number

/-- The text does not go on with a parameter list. -/
def Grammar.Closed (rest : List Char) : Prop :=
  ∀ tail, ¬Token '(' rest tail

/-- A text that goes on with other punctuation does not go on with a parameter list. -/
theorem Grammar.Token.closed {ch : Char} {rest tail : List Char} (h : Token ch rest tail)
    (other : ch ≠ '(') : Closed rest := by
  intro tail' h'
  have := h.symm.trans h'
  exact other (List.cons.inj this).1

/-- A text of nothing but blanks does not go on at all. -/
theorem Grammar.closed_of_blank {rest : List Char} (h : trimStart rest = []) : Closed rest := by
  intro tail token
  cases h.symm.trans token

/-- What fields are derived from starts with the name of the first one. -/
theorem Grammar.Derives.exists_word {input rest : List Char} {row : RowType}
    (h : Derives input (.fields row) rest) : ∃ name between, Word input name between := by
  cases h with
  | lastField word typed closing => exact ⟨_, _, word⟩
  | moreFields word typed comma others => exact ⟨_, _, word⟩

namespace Cursor

variable (text : String) {c : Cursor}

/-- The step succeeds with a value and the text left over. -/
def Reads {α : Type} (step : Except TypeError (Reading α c)) (value : α) (rest : List Char) :
    Prop :=
  ∃ r, step = .ok r ∧ r.value = value ∧ r.next.rest = rest

/-! ## Tokens -/

theorem punctuation?_of_token {ch : Char} {rest : List Char} (h : Token ch c.rest rest) :
    ∃ r : Reading Unit c, c.punctuation? ch = some r ∧ r.next.rest = rest := by
  unfold punctuation?
  split
  · rename_i first rest' hrest
    obtain ⟨rfl, rfl⟩ := List.cons.inj (hrest.symm.trans h)
    exact ⟨_, if_pos rfl, rfl⟩
  · rename_i hrest
    cases hrest.symm.trans h

/-- No punctuation is read where the text goes on with something else. -/
theorem punctuation?_eq_none {ch : Char} (h : ∀ tail, ¬Token ch c.rest tail) :
    c.punctuation? ch = none := by
  unfold punctuation?
  split
  · rename_i first rest hrest
    rw [if_neg]
    rintro rfl
    exact h rest hrest
  · rfl

theorem reads_expect {ch : Char} {rest : List Char} (h : Token ch c.rest rest) :
    Reads (c.expect text ch) () rest := by
  obtain ⟨r, hr, hrest⟩ := punctuation?_of_token h
  exact ⟨r, by rw [expect, hr], rfl, hrest⟩

theorem reads_identifier {name : String} {rest : List Char} (h : Word c.rest name rest) :
    Reads (c.identifier text) name rest := by
  unfold identifier
  cases h with
  | plain start nonempty chars longest =>
    -- the word is the longest run of its characters
    rename_i word
    obtain ⟨taken, left⟩ := span_append chars (ends_iff.mpr longest)
    split
    · rename_i hrest
      exact absurd (List.append_eq_nil_iff.mp (hrest.symm.trans start).symm).1 nonempty
    · rename_i first tail hrest
      have same := hrest.symm.trans start
      rw [← same] at taken left
      have first_mem : first ∈ word := by
        cases word with
        | nil => contradiction
        | cons ch _ => simp_all
      have identifierChar := chars first first_mem
      -- a word character is no backquote, so the second branch is taken
      rw [if_neg, dif_pos identifierChar]
      · refine ⟨_, rfl, congrArg String.ofList taken, ?_⟩
        exact (congrArg (List.dropWhile isIdentifierChar) hrest).trans left
      · rintro rfl
        cases identifierChar
  | quoted start chars =>
    rename_i word
    -- the name goes up to the first backquote after the opening one, which closes it
    have unquoted : ∀ ch ∈ word, (ch != backquote) = true := by simpa using chars
    have ends : Ends (· != backquote) (backquote :: rest) := by simp
    obtain ⟨taken, left⟩ := span_append unquoted ends
    split
    · rename_i hrest
      cases hrest.symm.trans start
    · rename_i first tail hrest
      obtain ⟨rfl, rfl⟩ := List.cons.inj (hrest.symm.trans start)
      rw [if_pos rfl]
      split
      · rename_i hafter
        cases hafter.symm.trans left
      · rename_i mark after hafter
        refine ⟨_, rfl, congrArg String.ofList taken, ?_⟩
        exact (List.cons.inj (hafter.symm.trans left)).2

/-- The text of a word does not go on with punctuation. -/
theorem not_token_of_word {ch : Char} {input rest : List Char} {name : String}
    (h : Word input name rest) (notQuote : ch ≠ backquote) (notWord : isIdentifierChar ch = false)
    (tail : List Char) : ¬Token ch input tail := by
  intro token
  cases h with
  | plain start nonempty chars longest =>
    rename_i word
    have same := token.symm.trans start
    -- a plain word begins with one of its characters, and no mark is one
    cases word with
    | nil => contradiction
    | cons first _ =>
      obtain ⟨rfl, -⟩ := List.cons.inj same
      simp_all
  | quoted start chars => exact notQuote (List.cons.inj (token.symm.trans start)).1

/-! ## Numbers -/

/-- Punctuation is not a digit, and neither are the blanks before it. -/
theorem not_digit_of_token {ch first : Char} {input rest tail : List Char} (h : Token ch input rest)
    (punctuation : ch.isDigit = false) (hinput : input = first :: tail) :
    first.isDigit = false := by
  subst hinput
  rw [← Bool.not_eq_true]
  intro digit
  rw [Token, trimStart_of_head (isBlank_of_isDigit digit)] at h
  obtain ⟨rfl, -⟩ := List.cons.inj h
  exact absurd digit (by simp [punctuation])

/-- A number is read where its text is all that is taken up. -/
theorem reads_integer_of_text {n : Int} {rest : List Char} (digits : List Char)
    (start : trimStart c.rest = digits ++ rest) (taken : integerText (trimStart c.rest) = digits)
    (value : readInt32? digits = some n) : Reads (c.integer text) n rest := by
  subst taken
  unfold integer
  dsimp only
  split
  · rename_i m hm
    refine ⟨_, rfl, Option.some.inj (hm.symm.trans value), ?_⟩
    exact (congrArg (List.drop _) start).trans List.drop_left
  · rename_i hm
    cases hm.symm.trans value

theorem reads_integer {n : Int} {rest : List Char} (h : Whole c.rest n rest)
    (stop : ∀ ch tail, rest = ch :: tail → ch.isDigit = false) :
    Reads (c.integer text) n rest := by
  cases h with
  | nonnegative start nonempty chars fits =>
    rename_i digits
    refine reads_integer_of_text text digits start ?_ ?_
    · -- the number goes on as far as there are digits
      rw [start, integerText]
      · exact (span_append (List.all_eq_true.mp chars) (ends_iff.mpr stop)).1
      -- the text starts with a digit, so not with a minus sign
      · rintro tail htail
        cases digits with
        | nil => contradiction
        | cons d ds =>
          obtain ⟨rfl, -⟩ := List.cons.inj htail
          simp at chars
    · simp [readInt32?, readInteger?_digits nonempty chars, fits]
  | negative start nonempty chars fits =>
    rename_i digits
    refine reads_integer_of_text text ('-' :: digits) start ?_ ?_
    · rw [start, integerText]
      exact congrArg _ (span_append (List.all_eq_true.mp chars) (ends_iff.mpr stop)).1
    · simp [readInt32?, readInteger?_minus nonempty chars, fits]

/-- After its first number, the rest of a list of numbers is read. -/
theorem reads_moreIntegers {input rest : List Char} {ns : List Int} (h : Wholes input ns rest) :
    ∃ n more between, ns = n :: more ∧ Whole input n between ∧
      (∀ ch tail, between = ch :: tail → ch.isDigit = false) ∧
      ∀ c : Cursor, c.rest = between → Reads (c.moreIntegers text) more rest := by
  -- the number stays apart from what comes after it, since the two are read by different steps
  induction h with
  | last number close =>
    rename_i r rest n
    -- the bracket closes the list, so there is no comma to go on with
    refine ⟨n, [], r, rfl, number, fun _ _ => not_digit_of_token close (by decide), ?_⟩
    rintro c rfl
    obtain ⟨closing, hclosing, -, hrest⟩ := reads_expect text close
    refine ⟨closing.map fun _ => [], ?_, rfl, hrest⟩
    rw [moreIntegers, punctuation?_eq_none]
    · exact bind_eq_ok_iff.mpr ⟨closing, hclosing, rfl⟩
    · intro tail token
      cases close.symm.trans token
  | more number comma others ih =>
    rename_i r r' rest n ns
    refine ⟨n, ns, r, rfl, number, fun _ _ => not_digit_of_token comma (by decide), ?_⟩
    -- by induction the next number is read, and those after it
    obtain ⟨m, more, between, rfl, hm, stop, hmore⟩ := ih
    rintro c rfl
    obtain ⟨comma', hcomma, rfl⟩ := punctuation?_of_token comma
    obtain ⟨m', hm', rfl, rfl⟩ := reads_integer text hm stop
    obtain ⟨more', hmore', rfl, hrest⟩ := hmore m'.next rfl
    refine ⟨comma'.after (m'.after (more'.map (m'.value :: ·))), ?_, rfl, hrest⟩
    rw [moreIntegers, hcomma]
    exact bind_eq_ok_iff.mpr ⟨m', hm', bind_eq_ok_iff.mpr ⟨more', hmore', rfl⟩⟩

theorem reads_integers {ns : List Int} {rest : List Char} (h : Wholes c.rest ns rest) :
    Reads (c.integers text) ns rest := by
  obtain ⟨n, more, between, rfl, hn, stop, hmore⟩ := reads_moreIntegers text h
  obtain ⟨n', hn', rfl, rfl⟩ := reads_integer text hn stop
  obtain ⟨more', hmore', rfl, hrest⟩ := hmore n'.next rfl
  exact ⟨n'.after (more'.map (n'.value :: ·)),
    bind_eq_ok_iff.mpr ⟨n', hn', bind_eq_ok_iff.mpr ⟨more', hmore', rfl⟩⟩, rfl, hrest⟩

/-! ## Types -/

/-- The name of a primitive type is not one of the three constructors. -/
theorem not_constructor_of_named {name : String} {parameters : Option (List Int)} {p : Primitive}
    (h : named name parameters = .ok p) :
    asciiUpper name ≠ "ARRAY" ∧ asciiUpper name ≠ "MAP" ∧ asciiUpper name ≠ "STRUCT" := by
  unfold named at h
  refine ⟨?_, ?_, ?_⟩
  all_goals
    intro constructor
    rw [constructor] at h
    cases h

/-- What is to be shown of each phrase: wherever it stands, it is read. -/
def Accepted (text : String) (input : List Char) (phrase : Phrase) (rest : List Char) : Prop :=
  match phrase with
  | .type t => ∀ c : Cursor, c.rest = input → Closed rest → Reads (c.type text) t rest
  | .fields row => ∀ c : Cursor, c.rest = input → Reads (c.fields text) row rest

/-- The type that a name with its parameters stands for is read. -/
theorem ofName_of_named {name : String} {parameters : Option (List Int)} {p : Primitive}
    (h : named name parameters = .ok p) :
    ((Primitive.ofName (expandTypeName (asciiUpper name)) parameters).map
      SqlType.primitive).mapError TypeError.primitive = .ok (.primitive p) :=
  mapError_eq_ok_iff.mpr (map_eq_ok_iff.mpr ⟨p, h, rfl⟩)

/-- What is derived is read. -/
theorem reads_of_derives {input rest : List Char} {phrase : Phrase}
    (h : Derives input phrase rest) : Accepted text input phrase rest := by
  -- each rule takes the steps that the reader takes, in the same order
  induction h with
  | primitive word stands =>
    rintro c rfl closed
    obtain ⟨name, hname, rfl, rfl⟩ := reads_identifier text word
    obtain ⟨notArray, notMap, notStruct⟩ := not_constructor_of_named stands
    -- what comes after the name is not taken for parameters
    refine ⟨name.map fun _ => _, ?_, rfl, rfl⟩
    rw [type]
    refine bind_eq_ok_iff.mpr ⟨name, hname, ?_⟩
    rw [if_neg notArray, if_neg notMap, if_neg notStruct, primitiveAfter,
      punctuation?_eq_none closed]
    exact bind_eq_ok_iff.mpr ⟨_, ofName_of_named stands, rfl⟩
  | parameterized word opening list stands =>
    rintro c rfl -
    obtain ⟨name, hname, rfl, rfl⟩ := reads_identifier text word
    obtain ⟨opening', hopening, rfl⟩ := punctuation?_of_token opening
    obtain ⟨parameters, hparameters, rfl, rfl⟩ := reads_integers text list
    obtain ⟨notArray, notMap, notStruct⟩ := not_constructor_of_named stands
    refine ⟨name.after (opening'.after (parameters.map fun _ => _)), ?_, rfl, rfl⟩
    rw [type]
    refine bind_eq_ok_iff.mpr ⟨name, hname, ?_⟩
    rw [if_neg notArray, if_neg notMap, if_neg notStruct, primitiveAfter, hopening]
    exact bind_eq_ok_iff.mpr ⟨parameters, hparameters,
      bind_eq_ok_iff.mpr ⟨_, ofName_of_named stands, rfl⟩⟩
  | array word keyword opening type closing ih =>
    rintro c rfl -
    obtain ⟨name, hname, rfl, rfl⟩ := reads_identifier text word
    obtain ⟨opening', hopening, -, rfl⟩ := reads_expect text opening
    -- the bracket after the element keeps it from going on with a parameter list
    obtain ⟨element, helement, rfl, rfl⟩ := ih opening'.next rfl (closing.closed (by decide))
    obtain ⟨closing', hclosing, -, rfl⟩ := reads_expect text closing
    refine ⟨name.after (opening'.after (element.after (closing'.map fun _ => _))), ?_, rfl, rfl⟩
    -- the name is the word for arrays, so the element is read between brackets
    rw [Cursor.type]
    refine bind_eq_ok_iff.mpr ⟨name, hname, ?_⟩
    rw [if_pos keyword]
    exact bind_eq_ok_iff.mpr ⟨opening', hopening, bind_eq_ok_iff.mpr ⟨element, helement,
      bind_eq_ok_iff.mpr ⟨closing', hclosing, rfl⟩⟩⟩
  | map word keyword opening keyType comma valueType closing ihKey ihValue =>
    rintro c rfl -
    obtain ⟨name, hname, rfl, rfl⟩ := reads_identifier text word
    obtain ⟨opening', hopening, -, rfl⟩ := reads_expect text opening
    obtain ⟨key, hkey, isPrimitive, rfl⟩ := ihKey opening'.next rfl (comma.closed (by decide))
    obtain ⟨comma', hcomma, -, rfl⟩ := reads_expect text comma
    obtain ⟨value, hvalue, rfl, rfl⟩ := ihValue comma'.next rfl (closing.closed (by decide))
    obtain ⟨closing', hclosing, -, rfl⟩ := reads_expect text closing
    refine ⟨name.after (opening'.after (key.after (comma'.after (value.after
      (closing'.map fun _ => _))))), ?_, rfl, rfl⟩
    rw [type]
    refine bind_eq_ok_iff.mpr ⟨name, hname, ?_⟩
    rw [if_neg (by simp [keyword]), if_pos keyword]
    refine bind_eq_ok_iff.mpr ⟨opening', hopening, bind_eq_ok_iff.mpr ⟨key, hkey, ?_⟩⟩
    -- the key that was read is primitive, so reading goes on
    dsimp only
    rw [isPrimitive]
    exact bind_eq_ok_iff.mpr ⟨comma', hcomma, bind_eq_ok_iff.mpr ⟨value, hvalue,
      bind_eq_ok_iff.mpr ⟨closing', hclosing, rfl⟩⟩⟩
  | emptyStruct word keyword opening closing =>
    rintro c rfl -
    obtain ⟨name, hname, rfl, rfl⟩ := reads_identifier text word
    obtain ⟨opening', hopening, -, rfl⟩ := reads_expect text opening
    -- the bracket closes at once, so no field is read
    obtain ⟨closing', hclosing, rfl⟩ := punctuation?_of_token closing
    refine ⟨name.after (opening'.after (closing'.map fun _ => .struct [])), ?_, rfl, rfl⟩
    rw [type]
    refine bind_eq_ok_iff.mpr ⟨name, hname, ?_⟩
    rw [if_neg (by simp [keyword]), if_neg (by simp [keyword]), if_pos keyword]
    refine bind_eq_ok_iff.mpr ⟨opening', hopening, ?_⟩
    dsimp only
    rw [hclosing]
    rfl
  | struct word keyword opening fields ih =>
    rintro c rfl -
    obtain ⟨name, hname, rfl, rfl⟩ := reads_identifier text word
    obtain ⟨opening', hopening, -, rfl⟩ := reads_expect text opening
    obtain ⟨fields', hfields, rfl, rfl⟩ := ih opening'.next rfl
    -- a field starts with a word, so the struct is not an empty one
    have nonempty : opening'.next.punctuation? '>' = none := by
      obtain ⟨first, between, word⟩ := fields.exists_word
      exact punctuation?_eq_none (not_token_of_word word (by decide) (by decide))
    refine ⟨name.after (opening'.after (fields'.map .struct)), ?_, rfl, rfl⟩
    rw [type]
    refine bind_eq_ok_iff.mpr ⟨name, hname, ?_⟩
    rw [if_neg (by simp [keyword]), if_neg (by simp [keyword]), if_pos keyword]
    refine bind_eq_ok_iff.mpr ⟨opening', hopening, ?_⟩
    dsimp only
    rw [nonempty]
    exact bind_eq_ok_iff.mpr ⟨fields', hfields, rfl⟩
  | lastField word typed closing ih =>
    rintro c rfl
    obtain ⟨name, hname, rfl, rfl⟩ := reads_identifier text word
    obtain ⟨type, htype, rfl, rfl⟩ := ih name.next rfl (closing.closed (by decide))
    obtain ⟨closing', hclosing, rfl⟩ := punctuation?_of_token closing
    refine ⟨name.after (type.after (closing'.map fun _ => [(name.value, type.value)])), ?_,
      rfl, rfl⟩
    rw [fields]
    refine bind_eq_ok_iff.mpr ⟨name, hname, bind_eq_ok_iff.mpr ⟨type, htype, ?_⟩⟩
    dsimp only
    rw [hclosing]
    rfl
  | moreFields word typed comma others ihType ihOthers =>
    rintro c rfl
    obtain ⟨name, hname, rfl, rfl⟩ := reads_identifier text word
    obtain ⟨type, htype, rfl, rfl⟩ := ihType name.next rfl (comma.closed (by decide))
    obtain ⟨comma', hcomma, -, rfl⟩ := reads_expect text comma
    obtain ⟨more, hmore, rfl, rfl⟩ := ihOthers comma'.next rfl
    -- a comma comes next, so this is not the last field
    have notLast : type.next.punctuation? '>' = none :=
      punctuation?_eq_none fun tail token => by cases comma.symm.trans token
    refine ⟨name.after (type.after (comma'.after (more.map ((name.value, type.value) :: ·)))), ?_,
      rfl, rfl⟩
    rw [fields]
    refine bind_eq_ok_iff.mpr ⟨name, hname, bind_eq_ok_iff.mpr ⟨type, htype, ?_⟩⟩
    dsimp only
    rw [notLast]
    exact bind_eq_ok_iff.mpr ⟨comma', hcomma, bind_eq_ok_iff.mpr ⟨more, hmore, rfl⟩⟩

end Cursor

end Sluice
