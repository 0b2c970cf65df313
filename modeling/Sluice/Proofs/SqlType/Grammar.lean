import Sluice.SqlType.Syntax

/-!
# The grammar of types

The type language as a grammar, apart from the reader. A phrase is derived from a text with some
of the text left over; blanks may stand before every token. An unquoted identifier is as long as it
can be, a whole number fits 32 bits, and a name with its parameters derives the primitive type that
it stands for, if it stands for one.

## Main definitions

* `Token`, `Word`, `Whole`: punctuation, identifiers and whole numbers.
* `Phrase`, `Derives`: types, the fields of a struct up to its bracket, and what derives them.
-/

namespace Sluice.Grammar

open Text Number

/-- After blanks, the text goes on with a punctuation character. -/
def Token (ch : Char) (input rest : List Char) : Prop :=
  trimStart input = ch :: rest

/-- After blanks, the text goes on with an identifier. -/
inductive Word : List Char → String → List Char → Prop where
  | plain {input word rest : List Char} (start : trimStart input = word ++ rest)
      (nonempty : word ≠ []) (chars : ∀ c ∈ word, isIdentifierChar c = true)
      (longest : ∀ c tail, rest = c :: tail → isIdentifierChar c = false) :
      Word input (String.ofList word) rest
  | quoted {input word rest : List Char}
      (start : trimStart input = backquote :: (word ++ backquote :: rest))
      (chars : ∀ c ∈ word, c ≠ backquote) : Word input (String.ofList word) rest

/-- After blanks, the text goes on with a whole number of 32 bits. -/
inductive Whole : List Char → Int → List Char → Prop where
  | nonnegative {input digits rest : List Char} (start : trimStart input = digits ++ rest)
      (nonempty : digits ≠ []) (chars : digits.all Char.isDigit = true)
      (fits : IsInt32 (natOfDigits digits)) : Whole input (natOfDigits digits) rest
  | negative {input digits rest : List Char} (start : trimStart input = '-' :: (digits ++ rest))
      (nonempty : digits ≠ []) (chars : digits.all Char.isDigit = true)
      (fits : IsInt32 (-natOfDigits digits)) : Whole input (-natOfDigits digits) rest

/-- Whole numbers between commas, and the parenthesis after them. -/
inductive Wholes : List Char → List Int → List Char → Prop where
  | last {input r rest : List Char} {n : Int} (number : Whole input n r)
      (close : Token ')' r rest) : Wholes input [n] rest
  | more {input r r' rest : List Char} {n : Int} {ns : List Int} (number : Whole input n r)
      (comma : Token ',' r r') (others : Wholes r' ns rest) : Wholes input (n :: ns) rest

/-- The primitive type that a name with parameters stands for. -/
def named (name : String) (parameters : Option (List Int)) : Except PrimitiveError Primitive :=
  Primitive.ofName (expandTypeName (asciiUpper name)) parameters

/-- What is derived: a type, or the fields of a struct with the bracket after them. -/
inductive Phrase where
  | type (t : SqlType)
  | fields (row : RowType)

/-- The phrases that texts begin with, and the texts after them. -/
inductive Derives : List Char → Phrase → List Char → Prop where
  -- names of primitive types, alone and with parameters
  | primitive {input rest : List Char} {name : String} {p : Primitive} (word : Word input name rest)
      (stands : named name none = .ok p) : Derives input (.type (.primitive p)) rest
  | parameterized {input r r' rest : List Char} {name : String} {parameters : List Int}
      {p : Primitive} (word : Word input name r) (opening : Token '(' r r')
      (list : Wholes r' parameters rest) (stands : named name (some parameters) = .ok p) :
      Derives input (.type (.primitive p)) rest
  -- the three constructors, in any case
  | array {input r₁ r₂ r₃ rest : List Char} {name : String} {element : SqlType}
      (word : Word input name r₁) (keyword : asciiUpper name = "ARRAY") (opening : Token '<' r₁ r₂)
      (type : Derives r₂ (.type element) r₃) (closing : Token '>' r₃ rest) :
      Derives input (.type (.array element)) rest
  | map {input r₁ r₂ r₃ r₄ r₅ rest : List Char} {name : String} {key : Primitive} {value : SqlType}
      (word : Word input name r₁) (keyword : asciiUpper name = "MAP") (opening : Token '<' r₁ r₂)
      (keyType : Derives r₂ (.type (.primitive key)) r₃) (comma : Token ',' r₃ r₄)
      (valueType : Derives r₄ (.type value) r₅) (closing : Token '>' r₅ rest) :
      Derives input (.type (.map key value)) rest
  | emptyStruct {input r₁ r₂ rest : List Char} {name : String} (word : Word input name r₁)
      (keyword : asciiUpper name = "STRUCT") (opening : Token '<' r₁ r₂)
      (closing : Token '>' r₂ rest) : Derives input (.type (.struct [])) rest
  | struct {input r₁ r₂ rest : List Char} {name : String} {row : RowType}
      (word : Word input name r₁) (keyword : asciiUpper name = "STRUCT") (opening : Token '<' r₁ r₂)
      (fields : Derives r₂ (.fields row) rest) : Derives input (.type (.struct row)) rest
  -- fields up to the bracket, of which there is at least one
  | lastField {input r₁ r₂ rest : List Char} {name : String} {type : SqlType}
      (word : Word input name r₁) (typed : Derives r₁ (.type type) r₂)
      (closing : Token '>' r₂ rest) : Derives input (.fields [(name, type)]) rest
  | moreFields {input r₁ r₂ r₃ rest : List Char} {name : String} {type : SqlType} {row : RowType}
      (word : Word input name r₁) (typed : Derives r₁ (.type type) r₂) (comma : Token ',' r₂ r₃)
      (others : Derives r₃ (.fields row) rest) : Derives input (.fields ((name, type) :: row)) rest

end Sluice.Grammar
