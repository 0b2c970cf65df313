import Sluice.Proofs.SqlType.Grammar
import Sluice.Proofs.SqlType.Shape
import Sluice.Proofs.Text.Character
import Sluice.Proofs.Text.Integer

/-!
# Printed types follow the grammar

The text of a type whose field names are identifiers derives the type, whatever comes after it that
does not go on with a word. The printer puts blanks in two places only, before the type of a field
and before the next field.

## Main definitions

* `Grammar.IsIdentifier`: the names that the reader takes for a word without quotes.
* `Grammar.Stops`: a text that does not go on with a word.

## Main statements

* `SqlType.derives_print`: the text of a type derives the type.
* `SqlType.backquote_notMem_print`: a text without quotes, when no name has a quote.
-/

namespace Sluice

open Text Number

namespace Grammar

/-- A name of one or more letters, numbers and underscores. -/
def IsIdentifier (name : String) : Prop :=
  name ≠ "" ∧ name.toList.all isIdentifierChar = true

instance (name : String) : Decidable (IsIdentifier name) :=
  inferInstanceAs (Decidable (_ ∧ _))

theorem IsIdentifier.isIdentifierChar {name : String} (h : IsIdentifier name) :
    ∀ c ∈ name.toList, isIdentifierChar c = true :=
  List.all_eq_true.mp h.2

/-- The text does not go on with a letter, a number or an underscore. -/
def Stops (rest : List Char) : Prop :=
  ∀ c tail, rest = c :: tail → isIdentifierChar c = false

theorem stops_nil : Stops [] := by
  intro c tail h
  cases h

theorem stops_cons {c : Char} {tail : List Char} (h : isIdentifierChar c = false) :
    Stops (c :: tail) := by
  rintro _ _ ⟨⟩
  exact h

/-- A name of word characters is derived where it stands. -/
theorem Word.of_isIdentifier {name : String} {input rest : List Char} (h : IsIdentifier name)
    (start : trimStart input = name.toList ++ rest) (stops : Stops rest) :
    Word input name rest := by
  have word := Word.plain start (by simpa using h.1) h.isIdentifierChar stops
  rwa [String.ofList_toList] at word

theorem Token.of_cons {ch : Char} {rest : List Char} (h : isBlank ch = false) :
    Token ch (ch :: rest) rest :=
  trimStart_of_head h

/-- A printed number is derived where it stands. -/
theorem Whole.of_toString {n : Int} {input rest : List Char} (fits : IsInt32 n)
    (start : trimStart input = (toString n).toList ++ rest) : Whole input n rest := by
  rw [toList_toString] at start
  split at start
  · -- the digits are those of the size, and the sign is printed before them
    have value : -(natOfDigits (Nat.toDigits 10 n.natAbs) : Int) = n := by
      rw [natOfDigits_toDigits]
      omega
    have number := Whole.negative start Nat.toDigits_ne_nil (all_isDigit_toDigits _)
      (by rwa [value])
    rwa [value] at number
  · have value : (natOfDigits (Nat.toDigits 10 n.natAbs) : Int) = n := by
      rw [natOfDigits_toDigits]
      omega
    have number := Whole.nonnegative start Nat.toDigits_ne_nil (all_isDigit_toDigits _)
      (by rwa [value])
    rwa [value] at number

/-- A word is not trimmed. -/
theorem trimStart_identifier {name : String} {rest : List Char} (h : IsIdentifier name) :
    trimStart (name.toList ++ rest) = name.toList ++ rest := by
  -- the first character of the word is not blank
  cases hname : name.toList with
  | nil => exact absurd (by simpa using hname) h.1
  | cons c cs =>
    have identifierChar := h.isIdentifierChar c (by simp [hname])
    exact trimStart_of_head (isBlank_of_isIdentifierChar identifierChar)

/-- A printed number is not trimmed. -/
theorem trimStart_toString {n : Int} {rest : List Char} :
    trimStart ((toString n).toList ++ rest) = (toString n).toList ++ rest := by
  rw [toList_toString]
  split
  · exact trimStart_of_head (by decide)
  · have digits := all_isDigit_toDigits n.natAbs
    cases hds : Nat.toDigits 10 n.natAbs with
    | nil => exact absurd hds Nat.toDigits_ne_nil
    | cons d ds =>
      rw [hds, List.all_cons, Bool.and_eq_true] at digits
      exact trimStart_of_head (isBlank_of_isDigit digits.1)

end Grammar

open Grammar

/-! ## Primitive types -/

theorem Primitive.named_decimal {p s : Int} (h : ValidDecimalBounds p s) :
    named "DECIMAL" (some [p, s]) = .ok (.decimal p s) := by
  change (ofBounds p s).mapError PrimitiveError.decimal = _
  rw [ofBounds_eq_ok_iff.mpr ⟨h, rfl⟩]
  rfl

/-- The name of a primitive type derives it, parameters included. -/
theorem Primitive.derives_name {p : Primitive} {input rest : List Char} (valid : p.WellFormed)
    (start : trimStart input = p.name.toList ++ rest) (stops : Stops rest) :
    Derives input (.type (.primitive p)) rest := by
  -- names without parameters are words of their own
  cases p with
  | boolean => exact .primitive (.of_isIdentifier (by decide) start stops) (by rfl)
  | integer => exact .primitive (.of_isIdentifier (by decide) start stops) (by rfl)
  | bigint => exact .primitive (.of_isIdentifier (by decide) start stops) (by rfl)
  | double => exact .primitive (.of_isIdentifier (by decide) start stops) (by rfl)
  | string => exact .primitive (.of_isIdentifier (by decide) start stops) (by rfl)
  | decimal precision scale =>
    obtain ⟨bounds, fitsPrecision, fitsScale⟩ := valid
    -- a word, an opening parenthesis, two numbers with a comma between them, and a closing one
    have text : (decimal precision scale).name.toList ++ rest =
        "DECIMAL".toList ++ '(' :: ((toString precision).toList ++
          ',' :: ((toString scale).toList ++ ')' :: rest)) := by
      simp [name, decimalTypeName]
    have word : Word input "DECIMAL" _ :=
      .of_isIdentifier (by decide) (start.trans text) (stops_cons (by decide))
    exact .parameterized word (.of_cons (by decide))
      (.more (.of_toString fitsPrecision trimStart_toString) (.of_cons (by decide))
        (.last (.of_toString fitsScale trimStart_toString) (.of_cons (by decide))))
      (named_decimal bounds)

/-- The name of a primitive type is not trimmed. -/
theorem Primitive.trimStart_name {p : Primitive} {rest : List Char} :
    trimStart (p.name.toList ++ rest) = p.name.toList ++ rest := by
  cases p with
  | decimal precision scale =>
    rw [name, decimalTypeName]
    simp only [String.toList_append, List.append_assoc]
    exact trimStart_of_head (by decide)
  | _ => exact trimStart_of_head (by decide)

/-! ## Types -/

namespace SqlType

theorem toList_print_array {element : SqlType} {rest : List Char} :
    (array element).print.toList ++ rest =
      "ARRAY".toList ++ '<' :: (element.print.toList ++ '>' :: rest) := by
  simp [print]

theorem toList_print_map {key : Primitive} {value : SqlType} {rest : List Char} :
    (map key value).print.toList ++ rest =
      "MAP".toList ++ '<' :: (key.name.toList ++ ',' :: (value.print.toList ++ '>' :: rest)) := by
  simp [print]

/-- The texts of fields, up to the bracket after them. -/
def fieldsText (fields : RowType) (rest : List Char) : List Char :=
  (", ".intercalate (printFields fields)).toList ++ '>' :: rest

theorem toList_print_struct {fields : RowType} {rest : List Char} :
    (struct fields).print.toList ++ rest = "STRUCT".toList ++ '<' :: fieldsText fields rest := by
  simp [print, fieldsText]

theorem fieldsText_singleton {name : String} {type : SqlType} {rest : List Char} :
    fieldsText [(name, type)] rest = name.toList ++ ' ' :: (type.print.toList ++ '>' :: rest) := by
  simp [fieldsText, printFields]

theorem fieldsText_cons {name : String} {type : SqlType} {f : Field} {fields : RowType}
    {rest : List Char} : fieldsText ((name, type) :: f :: fields) rest =
      name.toList ++ ' ' :: (type.print.toList ++ ',' :: ' ' :: fieldsText (f :: fields) rest) := by
  simp [fieldsText, printFields]

/-- The text of a type is not trimmed. -/
theorem trimStart_print {t : SqlType} {rest : List Char} :
    trimStart (t.print.toList ++ rest) = t.print.toList ++ rest := by
  -- every text begins with a letter
  cases t with
  | primitive p => exact Primitive.trimStart_name
  | array element =>
    rw [toList_print_array]
    exact trimStart_of_head (by decide)
  | map key value =>
    rw [toList_print_map]
    exact trimStart_of_head (by decide)
  | struct fields =>
    rw [toList_print_struct]
    exact trimStart_of_head (by decide)

/-- A blank before a text that is not trimmed is skipped. -/
theorem trimStart_space {cs : List Char} (h : trimStart cs = cs) : trimStart (' ' :: cs) = cs := by
  rw [trimStart, List.dropWhile_cons_of_pos (by decide)]
  exact h

/-- The texts of fields are not trimmed when the first name is an identifier. -/
theorem trimStart_fieldsText {f : Field} {fields : RowType} {rest : List Char}
    (h : IsIdentifier f.1) :
    trimStart (fieldsText (f :: fields) rest) = fieldsText (f :: fields) rest := by
  cases fields with
  | nil =>
    rw [fieldsText_singleton]
    exact trimStart_identifier h
  | cons g others =>
    rw [fieldsText_cons]
    exact trimStart_identifier h

/-- What is to be shown of a type: wherever its text stands, the type is derived. -/
def Derivable (t : SqlType) : Prop :=
  ∀ input rest, trimStart input = t.print.toList ++ rest → Stops rest → Derives input (.type t) rest

/-- Fields are derived when their types are, the first name being an identifier. -/
theorem derives_fieldsText {fields : RowType} (nonempty : fields ≠ [])
    (names : ∀ f ∈ fields, IsIdentifier f.1) (types : ∀ f ∈ fields, Derivable f.2)
    {input rest : List Char} (start : trimStart input = fieldsText fields rest) :
    Derives input (.fields fields) rest := by
  -- by induction on the fields: the last one ends with a bracket, and the others with a comma
  induction fields generalizing input with
  | nil => contradiction
  | cons f others ih =>
    obtain ⟨name, type⟩ := f
    rw [List.forall_mem_cons] at names types
    obtain ⟨isName, otherNames⟩ := names
    obtain ⟨derivable, otherTypes⟩ := types
    cases others with
    | nil =>
      rw [fieldsText_singleton] at start
      exact .lastField (.of_isIdentifier isName start (stops_cons (by decide)))
        (derivable _ _ (trimStart_space trimStart_print) (stops_cons (by decide)))
        (.of_cons (by decide))
    | cons g others =>
      rw [fieldsText_cons] at start
      have next :
          trimStart (' ' :: fieldsText (g :: others) rest) = fieldsText (g :: others) rest :=
        trimStart_space (trimStart_fieldsText (otherNames g List.mem_cons_self))
      exact .moreFields (.of_isIdentifier isName start (stops_cons (by decide)))
        (derivable _ _ (trimStart_space trimStart_print) (stops_cons (by decide)))
        (.of_cons (by decide)) (ih (by simp) otherNames otherTypes next)

/-- The text of a type derives the type. -/
theorem derives_print {t : SqlType} (valid : t.WellFormed) (names : t.AllNames IsIdentifier) :
    t.Derivable := by
  -- by the shape of the type; inside brackets a type is followed by a mark, which ends it
  induction t using shapeRec with
  | primitive p =>
    intro input rest start stops
    exact Primitive.derives_name (wellFormed_primitive.mp valid) start stops
  | array element ih =>
    intro input rest start _
    rw [toList_print_array] at start
    exact .array (.of_isIdentifier (by decide) start (stops_cons (by decide))) (by rfl)
      (.of_cons (by decide))
      (ih (wellFormed_array.mp valid) (allNames_array.mp names) _ _ trimStart_print
        (stops_cons (by decide)))
      (.of_cons (by decide))
  | map key value ih =>
    intro input rest start _
    rw [toList_print_map] at start
    obtain ⟨validKey, validValue⟩ := wellFormed_map.mp valid
    exact .map (.of_isIdentifier (by decide) start (stops_cons (by decide))) (by rfl)
      (.of_cons (by decide))
      (Primitive.derives_name validKey Primitive.trimStart_name (stops_cons (by decide)))
      (.of_cons (by decide))
      (ih validValue (allNames_map.mp names) _ _ trimStart_print (stops_cons (by decide)))
      (.of_cons (by decide))
  | struct fields ih =>
    intro input rest start _
    rw [toList_print_struct] at start
    have word : Word input "STRUCT" _ :=
      .of_isIdentifier (by decide) start (stops_cons (by decide))
    rw [wellFormed_struct] at valid
    rw [allNames_struct] at names
    -- without fields there is nothing between the brackets
    cases fields with
    | nil => exact .emptyStruct word (by rfl) (.of_cons (by decide)) (.of_cons (by decide))
    | cons f others =>
      exact .struct word (by rfl) (.of_cons (by decide))
        (derives_fieldsText (by simp) (fun g hg => (names g hg).1)
          (fun g hg => ih g hg (valid g hg) (names g hg).2)
          (trimStart_fieldsText (names f List.mem_cons_self).1))

/-! ## Quotes -/

theorem backquote_notMem_toString {n : Int} : backquote ∉ (toString n).toList := by
  have digits := List.all_eq_true.mp (all_isDigit_toDigits n.natAbs)
  rw [toList_toString]
  split
  · intro h
    obtain sign | digit := List.mem_cons.mp h
    · exact absurd sign (by decide)
    · exact absurd (digits _ digit) (by decide)
  · intro digit
    exact absurd (digits _ digit) (by decide)

theorem backquote_notMem_name {p : Primitive} : backquote ∉ p.name.toList := by
  cases p with
  | decimal precision scale =>
    have punctuation : backquote ∉ "DECIMAL(".toList ∧ backquote ∉ ",".toList ∧
        backquote ∉ ")".toList := by decide
    simp only [Primitive.name, decimalTypeName, String.toList_append, List.mem_append, not_or]
    exact ⟨⟨⟨⟨punctuation.1, backquote_notMem_toString⟩, punctuation.2.1⟩,
      backquote_notMem_toString⟩, punctuation.2.2⟩
  | _ => decide

theorem backquote_notMem_fieldsText {fields : RowType}
    (names : ∀ f ∈ fields, backquote ∉ f.1.toList)
    (types : ∀ f ∈ fields, backquote ∉ f.2.print.toList) : backquote ∉ fieldsText fields [] := by
  -- by the fields; the marks between them are no quotes
  induction fields with
  | nil => decide
  | cons f others ih =>
    obtain ⟨name, type⟩ := f
    rw [List.forall_mem_cons] at names types
    cases others with
    | nil =>
      rw [fieldsText_singleton]
      simp only [List.mem_append, List.mem_cons, not_or]
      exact ⟨names.1, by decide, types.1, by decide, List.not_mem_nil⟩
    | cons g others =>
      rw [fieldsText_cons]
      simp only [List.mem_append, List.mem_cons, not_or]
      exact ⟨names.1, by decide, types.1, by decide, by decide, ih names.2 types.2⟩

/-- Only a name brings a quote into the text of a type. -/
theorem backquote_notMem_print {t : SqlType}
    (names : t.AllNames fun name => backquote ∉ name.toList) : backquote ∉ t.print.toList := by
  -- by the shape of the type; words and brackets are no quotes
  induction t using shapeRec with
  | primitive p => exact backquote_notMem_name
  | array element ih =>
    rw [← List.append_nil (print _).toList, toList_print_array]
    simp only [List.mem_append, List.mem_cons, not_or]
    exact ⟨by decide, by decide, ih names, by decide, List.not_mem_nil⟩
  | map key value ih =>
    rw [← List.append_nil (print _).toList, toList_print_map]
    simp only [List.mem_append, List.mem_cons, not_or]
    exact ⟨by decide, by decide, backquote_notMem_name, by decide, ih names, by decide,
      List.not_mem_nil⟩
  | struct fields ih =>
    rw [allNames_struct] at names
    rw [← List.append_nil (print _).toList, toList_print_struct]
    simp only [List.mem_append, List.mem_cons, not_or]
    exact ⟨by decide, by decide, backquote_notMem_fieldsText (fun f hf => (names f hf).1)
      fun f hf => ih f hf (names f hf).2⟩

end SqlType

end Sluice
