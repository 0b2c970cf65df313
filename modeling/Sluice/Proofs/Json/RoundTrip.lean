import Sluice.Json.Printer
import Sluice.Json.Reader
import Sluice.Proofs.Json.Written
import Sluice.Proofs.Text.Boundary

/-!
# What is printed is read again

A value is printed without blanks, so that each token starts where the one before it ends. Strings
and containers show where they end; a number ends where no character of a number follows, as is the
case before a comma and before a closing mark. The reader keeps the containers that are open on a
stack. Wherever a value may stand, the state after its text is the state before with the document of
the value supplied to the innermost container.

Binary numbers are left aside: reading rounds, so that another number may come back. A container
that is nested too deeply comes back unreadable.

## Main definitions

* `Value.Whole`: all numbers in a value are whole numbers that fit 64 bits.
* `Progress.readText?`: the state after the tokens of a text.
* `Container`: what arrays and objects have in common for the reader.

## Main statements

* `tokens?_toString`, `tokens?_printString`: printed numbers and strings are one token each.
* `Document.read?_print`: a printed value is read as the document of it.
-/

namespace Sluice.Json

open Sluice.Number

variable {rest : List Char}

/-! ## Numbers -/

/-- A whole number fits 64 bits, signed or unsigned. -/
def Fits (n : Int) : Prop :=
  int64Least ≤ n ∧ n ≤ uint64Greatest

theorem wholePart?_toDigits (n : Nat) :
    wholePart? (Nat.toDigits 10 n) = some (Nat.toDigits 10 n) := by
  rw [wholePart?, if_neg, if_neg]
  · -- with a leading zero, the digits are those of zero
    intro leading
    rw [Bool.and_eq_true, beq_iff_eq, decide_eq_true_iff] at leading
    obtain rfl := Text.eq_zero_of_head?_toDigits leading.1
    exact leading.2 (Nat.toDigits_zero 10)
  · simp [Text.all_isDigit_toDigits, Nat.toDigits_ne_nil]

/-- Digits alone are a number without a fraction and an exponent. -/
theorem readUnsigned?_toDigits (negative : Bool) (n : Nat) :
    readUnsigned? negative (Nat.toDigits 10 n) =
      some { negative, whole := Nat.toDigits 10 n, fraction := [], exponent := none } := by
  have absent {mark : Char} (other : mark.isDigit = false) : ∀ c ∈ Nat.toDigits 10 n, c ≠ mark :=
    fun c mem => Text.ne_of_class (List.all_eq_true.mp (Text.all_isDigit_toDigits n) c mem) other
  -- neither a mark of an exponent nor a point is among the digits
  have unmarked : ∀ c ∈ Nat.toDigits 10 n, (!(c == 'e' || c == 'E')) = true := by
    intro c mem
    have small : c ≠ 'e' := absent rfl c mem
    have capital : c ≠ 'E' := absent rfl c mem
    simp [small, capital]
  have unbroken : ∀ c ∈ Nat.toDigits 10 n, (c != '.') = true := by
    intro c mem
    have point : c ≠ '.' := absent rfl c mem
    simp [point]
  obtain ⟨mantissa, noExponent⟩ := Text.span_eq unmarked
  obtain ⟨whole, noFraction⟩ := Text.span_eq unbroken
  -- so the characters before a mark, and before a point, are all the digits
  simp only [readUnsigned?]
  rw [mantissa, noExponent, whole, noFraction, wholePart?_toDigits]
  rfl

/-- A whole number that fits is read as it was printed. -/
theorem readNumber?_toString {n : Int} (fits : Fits n) :
    ∃ t, readNumber? (toString n).toList = some t ∧ t.number? = some (.integer n) := by
  have value := Text.natOfDigits_toDigits n.natAbs
  rw [Text.toList_toString]
  split
  · -- the sign is taken off before the digits are read
    refine ⟨_, readUnsigned?_toDigits true n.natAbs, ?_⟩
    have nonzero : n.natAbs ≠ 0 := by omega
    have opposite : -(n.natAbs : Int) = n := by omega
    simp only [NumberText.number?, value]
    rw [opposite]
    simp [nonzero, fits.1]
  · -- digits do not begin with a sign
    have unsigned : readNumber? (Nat.toDigits 10 n.natAbs) =
        readUnsigned? false (Nat.toDigits 10 n.natAbs) := by
      unfold readNumber?
      split
      · rename_i minus
        have digits := Text.all_isDigit_toDigits n.natAbs
        rw [minus] at digits
        simp at digits
      · rfl
    refine ⟨_, unsigned.trans (readUnsigned?_toDigits false n.natAbs), ?_⟩
    -- what is not negative fits 64 bits without a sign
    have size : n.natAbs ≤ uint64Greatest := by
      have := fits.2
      omega
    have same : (n.natAbs : Int) = n := by omega
    simp only [NumberText.number?, value]
    rw [same]
    simp [size]

/-- A number ends where its characters do. -/
theorem tokens?_number {c : Char} {run : List Char} {t : NumberText}
    (chars : ∀ d ∈ c :: run, isNumberChar d = true) (ends : Text.Ends isNumberChar rest)
    (read : readNumber? (c :: run) = some t) :
    tokens? (c :: run ++ rest) = (tokens? rest).map (.number t.number? :: ·) := by
  have number := chars c List.mem_cons_self
  have other (mark : Char) (outside : isNumberChar mark = false) : c ≠ mark :=
    Text.ne_of_class number outside
  -- the rest of the run is taken with the first character
  obtain ⟨taken, left⟩ := Text.span_append (fun d mem => chars d (List.mem_cons_of_mem c mem)) ends
  rw [List.cons_append, tokens?]
  · have space : isSpace c = false := by
      simp [isSpace, other ' ' rfl, other '\n' rfl, other '\t' rfl, other '\r' rfl]
    simp [space, other '\x7b' rfl, other '\x7d' rfl, other '[' rfl, other ']' rfl, other ',' rfl,
      other ':' rfl, other '"' rfl, number, taken, left, read]
  -- no literal starts like a number
  · exact fun _ first => absurd first (other 'n' rfl)
  · exact fun _ first => absurd first (other 't' rfl)
  · exact fun _ first => absurd first (other 'f' rfl)

/-- A printed whole number is one token. -/
theorem tokens?_toString {n : Int} (fits : Fits n) (ends : Text.Ends isNumberChar rest) :
    tokens? ((toString n).toList ++ rest) =
      (tokens? rest).map (.number (some (.integer n)) :: ·) := by
  obtain ⟨t, read, value⟩ := readNumber?_toString fits
  -- a printed number has a sign and digits only
  have chars : ∀ c ∈ (toString n).toList, isNumberChar c = true := by
    intro c mem
    have printed := Text.isNumberChar_of_mem_toString c mem
    simp only [Text.isNumberChar, Bool.or_eq_true] at printed
    rcases printed with minus | digit
    · simp [isNumberChar, minus]
    · simp [isNumberChar, digit]
  cases run : (toString n).toList with
  | nil =>
    rw [run] at read
    cases read
  | cons c run' =>
    rw [run] at read chars
    rw [tokens?_number chars ends read, value]

/-! ## Strings -/

theorem hexDigit?_hexDigit (n : Nat) : hexDigit? (hexDigit n) = some (n % 16) := by
  have all : ∀ k < 16, hexDigit? (Nat.digitChar k) = some k := by decide
  exact all _ (Nat.mod_lt _ (by decide))

/-- A unit that is no half of a surrogate pair is a character by itself. -/
theorem joinPieces_unit {n : Nat} (plain : n < 0xd800) (ps : List Piece) :
    joinPieces (.unit n :: ps) = (joinPieces ps).map (Char.ofNat n :: ·) := by
  have low : ¬0xd800 ≤ n := by omega
  have high : ¬0xdc00 ≤ n := by omega
  cases ps with
  | nil => simp [joinPieces, low]
  | cons p ps =>
    cases p with
    | char c => simp [joinPieces, low]
    | unit m => simp [joinPieces, low, high]

/-- The characters that have a short escape, and what stands for them after a backslash. -/
def shortEscapes : List (Char × Char) := [
  ('"', '"'), ('\\', '\\'), ('\x08', 'b'), ('\x0c', 'f'), ('\n', 'n'), ('\r', 'r'), ('\t', 't')]

theorem stringChar_shortEscape {c e : Char} (h : (c, e) ∈ shortEscapes) :
    stringChar c = ['\\', e] ∧ shortEscape? e = some c := by
  simp only [shortEscapes, List.mem_cons, Prod.mk.injEq, List.not_mem_nil, or_false] at h
  obtain ⟨rfl, rfl⟩ | ⟨rfl, rfl⟩ | ⟨rfl, rfl⟩ | ⟨rfl, rfl⟩ | ⟨rfl, rfl⟩ | ⟨rfl, rfl⟩ | ⟨rfl, rfl⟩ :=
    h
  all_goals exact ⟨rfl, rfl⟩

/-- A character is printed in one of three ways: as a short escape, by its number, or as it is. -/
theorem stringChar_cases (c : Char) :
    (∃ e, stringChar c = ['\\', e] ∧ shortEscape? e = some c) ∨
    (c.toNat < 0x20 ∧
      stringChar c = ['\\', 'u', '0', '0', hexDigit (c.toNat / 16), hexDigit c.toNat]) ∨
    (c ≠ '"' ∧ c ≠ '\\' ∧ 0x20 ≤ c.toNat ∧ stringChar c = [c]) := by
  -- the short escapes are listed, and what is not listed is escaped for being a control character
  by_cases short : ∃ e, (c, e) ∈ shortEscapes
  · obtain ⟨e, mem⟩ := short
    exact .inl ⟨e, stringChar_shortEscape mem⟩
  · right
    simp only [shortEscapes, List.mem_cons, Prod.mk.injEq, List.not_mem_nil, or_false, exists_or,
      exists_eq_right, not_or] at short
    obtain ⟨quote, backslash, backspace, feed, line, return', tab⟩ := short
    by_cases control : c.toNat < 0x20
    · left
      refine ⟨control, ?_⟩
      simp [stringChar, quote, backslash, backspace, feed, line, return', tab, control]
    · right
      refine ⟨quote, backslash, Nat.not_lt.mp control, ?_⟩
      simp [stringChar, quote, backslash, backspace, feed, line, return', tab, control]

/-- A printed character is taken as one piece, which is joined to that character. -/
theorem takePieces_stringChar (c : Char) {ps : List Piece} {cs : List Char}
    (h : takePieces cs = some (ps, rest)) :
    ∃ p, takePieces (stringChar c ++ cs) = some (p :: ps, rest) ∧
      joinPieces (p :: ps) = (joinPieces ps).map (c :: ·) := by
  obtain ⟨e, printed, escape⟩ | ⟨control, printed⟩ | ⟨quote, backslash, visible, printed⟩ :=
    stringChar_cases c
  · refine ⟨.char c, ?_, rfl⟩
    rw [printed, List.cons_append, List.cons_append, List.nil_append, takePieces]
    · simp [escape, h]
    -- no short escape is written with the letter that marks a number
    · rintro _ _ _ _ _ rfl
      cases escape
  · -- a code below 32 stands for its own character
    refine ⟨.unit c.toNat, ?_, ?_⟩
    · have unit : hexUnit? '0' '0' (hexDigit (c.toNat / 16)) (hexDigit c.toNat) =
          some c.toNat := by
        have zero : hexDigit? '0' = some 0 := rfl
        have number : 16 * (c.toNat / 16 % 16) + c.toNat % 16 = c.toNat := by omega
        simp [hexUnit?, zero, hexDigit?_hexDigit, number]
      simp [printed, takePieces, unit, h]
    · rw [joinPieces_unit (by omega), Char.ofNat_toNat]
  · refine ⟨.char c, ?_, rfl⟩
    rw [printed, List.singleton_append, takePieces]
    · simp [Nat.not_lt.mpr visible, backslash, h]
    · exact fun first => absurd first quote
    · exact fun _ _ _ _ _ first => absurd first backslash
    · exact fun _ _ first => absurd first backslash

/-- The characters of a string are taken up to the closing quote. -/
theorem takePieces_flatMap (cs rest : List Char) :
    ∃ ps, takePieces (cs.flatMap stringChar ++ '"' :: rest) = some (ps, rest) ∧
      joinPieces ps = some cs := by
  -- by the characters of the string
  induction cs with
  | nil => exact ⟨[], rfl, rfl⟩
  | cons c cs ih =>
    obtain ⟨ps, others, joined⟩ := ih
    obtain ⟨p, taken, first⟩ := takePieces_stringChar c others
    refine ⟨p :: ps, ?_, ?_⟩
    · rwa [List.flatMap_cons, List.append_assoc]
    · rw [first, joined]
      rfl

/-- A string ends at its closing quote. -/
theorem tokens?_quote {cs : List Char} {ps : List Piece} (taken : takePieces cs = some (ps, rest)) :
    tokens? ('"' :: cs) =
      (tokens? rest).map (.string ((joinPieces ps).map String.ofList) :: ·) := by
  -- a quote is neither blank nor punctuation, and begins a string
  rw [tokens?]
  · simp only [isSpace, Char.reduceBEq, Bool.or_false, Bool.false_eq_true, if_false, if_true]
    split
    · rename_i ps' rest' taken'
      obtain ⟨rfl, rfl⟩ := Prod.mk.inj (Option.some.inj (taken'.symm.trans taken))
      rfl
    · rename_i none
      cases none.symm.trans taken
  all_goals exact fun _ first => absurd first (by decide)

/-- A printed string is one token. -/
theorem tokens?_printString (s : String) :
    tokens? ((printString s).toList ++ rest) = (tokens? rest).map (.string (some s) :: ·) := by
  obtain ⟨ps, taken, joined⟩ := takePieces_flatMap s.toList rest
  have printed : (printString s).toList ++ rest =
      '"' :: (s.toList.flatMap stringChar ++ '"' :: rest) := by
    simp [printString]
  rw [printed, tokens?_quote taken, joined, Option.map_some, String.ofList_toList]

/-! ## Texts -/

/-- The marks that are tokens by themselves. -/
def punctuation : List (Char × Token) := [
  ('\x7b', .openBrace), ('\x7d', .closeBrace), ('[', .openBracket), (']', .closeBracket),
  (',', .comma), (':', .colon)]

theorem tokens?_punctuation {mark : Char} {t : Token} (h : (mark, t) ∈ punctuation)
    (rest : List Char) : tokens? (mark :: rest) = (tokens? rest).map (t :: ·) := by
  simp only [punctuation, List.mem_cons, Prod.mk.injEq, List.not_mem_nil, or_false] at h
  obtain ⟨rfl, rfl⟩ | ⟨rfl, rfl⟩ | ⟨rfl, rfl⟩ | ⟨rfl, rfl⟩ | ⟨rfl, rfl⟩ | ⟨rfl, rfl⟩ := h
  all_goals simp [tokens?, isSpace]

namespace Progress

/-- Reads the tokens of a text. -/
def readText? (p : Progress) (cs : List Char) : Option Progress := do
  let tokens ← tokens? cs
  tokens.foldlM read? p

@[simp]
theorem readText?_nil (p : Progress) : p.readText? [] = some p := by
  simp [readText?, tokens?]

/-- A text that starts with a token is read from there on. -/
theorem readText?_token {cs : List Char} {t : Token}
    (first : tokens? cs = (tokens? rest).map (t :: ·)) (p : Progress) :
    p.readText? cs = (p.read? t).bind (·.readText? rest) := by
  unfold readText?
  rw [first]
  cases tokens? rest with
  | none => simp
  | some tokens => simp

theorem readText?_mark {mark : Char} {t : Token} (h : (mark, t) ∈ punctuation) (p : Progress) :
    p.readText? (mark :: rest) = (p.read? t).bind (·.readText? rest) :=
  readText?_token (tokens?_punctuation h rest) p

end Progress

/-- A text is read from the start on, up to where it may end. -/
theorem Document.read?_eq (text : String) :
    Document.read? text = (Progress.start.readText? text.toList).bind Progress.finished? := by
  unfold Document.read? Progress.readText?
  cases tokens? text.toList with
  | none => rfl
  | some tokens => rfl

/-! ## Containers -/

/-- How the items of an array or object are read. -/
structure Container (β : Type) where
  /-- the container on the stack, with the items that were read, the last one first -/
  holding : List β → Open
  /-- what may come after the opening mark -/
  opened : Place
  /-- what may come after a comma -/
  next : Place
  /-- the closing mark -/
  mark : Char
  token : Token
  mem_punctuation : (mark, token) ∈ punctuation
  isNumberChar_mark : isNumberChar mark = false
  read?_opened (stack : List Open) :
    Progress.read? ⟨opened, holding [] :: stack⟩ token = Progress.readEnd? (holding [] :: stack)
  read?_separator (items : List β) (stack : List Open) :
    Progress.read? ⟨.separator, holding items :: stack⟩ token =
      Progress.readEnd? (holding items :: stack)
  read?_comma (items : List β) (stack : List Open) :
    Progress.read? ⟨.separator, holding items :: stack⟩ .comma =
      some ⟨next, holding items :: stack⟩

namespace Container

/-- Arrays. -/
def array : Container Document where
  holding := .array
  opened := .firstItem
  next := .value
  mark := ']'
  token := .closeBracket
  mem_punctuation := by simp [punctuation]
  isNumberChar_mark := rfl
  read?_opened stack := rfl
  read?_separator items stack := rfl
  read?_comma items stack := rfl

/-- Objects. -/
def object : Container (Option String × Document) where
  holding members := .object members none
  opened := .firstName
  next := .name
  mark := '\x7d'
  token := .closeBrace
  mem_punctuation := by simp [punctuation]
  isNumberChar_mark := rfl
  read?_opened stack := rfl
  read?_separator items stack := rfl
  read?_comma items stack := rfl

variable {α β : Type} {k : Container β} {text : α → String} {item : α → β} {stack : List Open}

/-- Each of the items is read from its text, both as the first one and after a comma. -/
def Reads (k : Container β) (text : α → String) (item : α → β) (stack : List Open) (as : List α) :
    Prop :=
  ∀ a ∈ as, ∀ place, (place = k.opened ∨ place = k.next) → ∀ items rest,
    Text.Ends isNumberChar rest →
      Progress.readText? ⟨place, k.holding items :: stack⟩ ((text a).toList ++ rest) =
        Progress.readText? ⟨.separator, k.holding (item a :: items) :: stack⟩ rest

/-- The items after the first one, and the closing mark. -/
def tail (k : Container β) (text : α → String) (as : List α) (rest : List Char) : List Char :=
  as.flatMap (fun a => ',' :: (text a).toList) ++ k.mark :: rest

theorem ends_tail {as : List α} : Text.Ends isNumberChar (k.tail text as rest) := by
  cases as with
  | nil => exact Text.ends_cons.mpr k.isNumberChar_mark
  | cons a as =>
    have comma : isNumberChar ',' = false := rfl
    exact Text.ends_cons.mpr comma

theorem toList_intercalate (a : α) (as : List α) :
    (",".intercalate ((a :: as).map text)).toList ++ k.mark :: rest =
      (text a).toList ++ k.tail text as rest := by
  induction as generalizing a with
  | nil => simp [tail]
  | cons b as ih => simpa [tail] using ih b

/-- The other items are read up to the closing mark. -/
theorem readText?_tail {as : List α} (reads : k.Reads text item stack as) (items : List β) :
    Progress.readText? ⟨.separator, k.holding items :: stack⟩ (k.tail text as rest) =
      (Progress.readEnd? (k.holding ((as.map item).reverse ++ items) :: stack)).bind
        (·.readText? rest) := by
  -- by the items that are left, with those already read behind
  induction as generalizing items with
  | nil =>
    rw [tail, List.flatMap_nil, List.nil_append, Progress.readText?_mark k.mem_punctuation,
      k.read?_separator]
    rfl
  | cons a as ih =>
    have comma : (',', .comma) ∈ punctuation := by simp [punctuation]
    have split : k.tail text (a :: as) rest =
        ',' :: ((text a).toList ++ k.tail text as rest) := by
      simp [tail]
    -- the item is read in the place after a comma, and leaves the reader in the place before one
    rw [split, Progress.readText?_mark comma, k.read?_comma, Option.bind_some,
      reads a List.mem_cons_self _ (.inr rfl) _ _ ends_tail,
      ih fun b mem => reads b (List.mem_cons_of_mem a mem)]
    simp

/-- All items are read, and the container is closed. -/
theorem readText?_items {as : List α} (reads : k.Reads text item stack as) :
    Progress.readText? ⟨k.opened, k.holding [] :: stack⟩
        ((",".intercalate (as.map text)).toList ++ k.mark :: rest) =
      Progress.readText?
        (Progress.supply (Progress.close (stack.length + 1) (k.holding (as.map item).reverse))
          stack) rest := by
  -- without items the container is closed in the place where it was opened
  cases as with
  | nil =>
    have none : (",".intercalate (([] : List α).map text)).toList ++ k.mark :: rest =
        k.mark :: rest := by
      simp
    rw [none, Progress.readText?_mark k.mem_punctuation, k.read?_opened]
    rfl
  | cons a as =>
    rw [toList_intercalate, reads a List.mem_cons_self _ (.inl rfl) _ _ ends_tail,
      readText?_tail fun b mem => reads b (List.mem_cons_of_mem a mem), List.map_cons,
      List.reverse_cons]
    rfl

end Container

/-! ## Values -/

/-- All numbers in the value are whole numbers that fit 64 bits. -/
inductive Value.Whole : Value → Prop
  | null : Whole .null
  | bool (b : Bool) : Whole (.bool b)
  | number {n : Int} (fits : Fits n) : Whole (.integer n)
  | string (s : String) : Whole (.string s)
  | array {items : List Value} (all : ∀ v ∈ items, Whole v) : Whole (.array items)
  | object {members : List (String × Value)} (all : ∀ m ∈ members, Whole m.2) :
      Whole (.object members)

theorem Value.printItems_eq_map (items : List Value) : printItems items = items.map print := by
  induction items with
  | nil => rfl
  | cons v rest ih => exact congrArg (v.print :: ·) ih

theorem Value.documents_eq_map (items : List Value) : documents items = items.map document := by
  induction items with
  | nil => rfl
  | cons v rest ih => exact congrArg (v.document :: ·) ih

/-- The text of a member of an object. -/
def Value.printMember (m : String × Value) : String :=
  printString m.1 ++ ":" ++ m.2.print

theorem Value.printMembers_eq_map (members : List (String × Value)) :
    printMembers members = members.map printMember := by
  induction members with
  | nil => rfl
  | cons m rest ih => exact congrArg (printMember m :: ·) ih

theorem Value.memberDocuments_eq_map (members : List (String × Value)) :
    memberDocuments members = members.map fun m => (m.1, m.2.document) := by
  induction members with
  | nil => rfl
  | cons m rest ih => exact congrArg ((m.1, m.2.document) :: ·) ih

/-- The value is read from its text wherever it may stand, if it is not nested too deeply. -/
def Value.Reads (v : Value) : Prop :=
  ∀ (place : Place) (stack : List Open) (rest : List Char), place = .firstItem ∨ place = .value →
    stack.length + v.document.height ≤ greatestDepth → Text.Ends isNumberChar rest →
      Progress.readText? ⟨place, stack⟩ (v.print.toList ++ rest) =
        Progress.readText? (Progress.supply v.document stack) rest

/-- Where a value may stand, a token other than a closing bracket is read as its start. -/
theorem Progress.read?_value {place : Place} {stack : List Open} {t : Token}
    (h : place = .firstItem ∨ place = .value) (other : t ≠ .closeBracket) :
    read? ⟨place, stack⟩ t = readValue? stack t := by
  rcases h with rfl | rfl
  · exact if_neg other
  · rfl

theorem Value.reads_leaf {v : Value} {t : Token} (other : t ≠ .closeBracket)
    (value : ∀ stack, Progress.readValue? stack t = some (Progress.supply v.document stack))
    (token : ∀ rest, Text.Ends isNumberChar rest →
      tokens? (v.print.toList ++ rest) = (tokens? rest).map (t :: ·)) : v.Reads := by
  intro place stack rest start _ ends
  rw [Progress.readText?_token (token rest ends), Progress.read?_value start other, value]
  rfl

/-- A container that is not nested too deeply is closed. -/
theorem Progress.close_eq {depth : Nat} (within : depth ≤ greatestDepth) (container : Open) :
    close depth container =
      match container with
      | .array items => .array items.reverse
      | .object members _ =>
        match namedMembers? members.reverse with
        | some ms => .object ms
        | none => .unreadable :=
  if_neg (Nat.not_lt.mpr within)

theorem Value.reads_array {items : List Value} (all : ∀ v ∈ items, v.Reads) :
    (Value.array items).Reads := by
  intro place stack rest start depth ends
  have opening : ('[', .openBracket) ∈ punctuation := by simp [punctuation]
  have text : (Value.array items).print.toList ++ rest =
      '[' :: ((",".intercalate (items.map print)).toList ++ ']' :: rest) := by
    simp [print, printItems_eq_map]
  rw [document, documents_eq_map] at depth
  -- one container more is open while an item is read, and the item has one layer less
  have each : Container.array.Reads print document stack items := by
    intro v mem place start ds rest ends
    have below := Document.height_lt_of_mem_array (List.mem_map_of_mem (f := document) mem)
    apply all v mem place _ rest start _ ends
    rw [List.length_cons]
    omega
  -- closing puts the items in order, and the array is not too deep
  have closed : Progress.close (stack.length + 1)
      (Container.array.holding (items.map document).reverse) = (Value.array items).document := by
    rw [Document.height] at depth
    rw [Progress.close_eq (by omega), document, documents_eq_map]
    exact congrArg Document.array (List.reverse_reverse _)
  rw [text, Progress.readText?_mark opening, Progress.read?_value start (by decide)]
  exact (Container.readText?_items each).trans (by rw [closed])

/-- Where a name may stand, a string is read as one. -/
theorem Progress.read?_name {place : Place} {stack : List Open} {name : String}
    {members : List (Option String × Document)} (h : place = .firstName ∨ place = .name) :
    read? ⟨place, .object members none :: stack⟩ (.string (some name)) =
      some ⟨.colon, .object members (some name) :: stack⟩ := by
  rcases h with rfl | rfl
  · rfl
  · rfl

/-- A member is read from its text: its name, a colon and its value. -/
theorem Value.readText?_member {m : String × Value} {place : Place} {stack : List Open}
    {members : List (Option String × Document)} (reads : m.2.Reads)
    (start : place = .firstName ∨ place = .name)
    (depth : stack.length + 1 + m.2.document.height ≤ greatestDepth)
    (ends : Text.Ends isNumberChar rest) :
    Progress.readText? ⟨place, .object members none :: stack⟩ ((printMember m).toList ++ rest) =
      Progress.readText?
        ⟨.separator, .object ((some m.1, m.2.document) :: members) none :: stack⟩ rest := by
  have colon : (':', .colon) ∈ punctuation := by simp [punctuation]
  have text : (printMember m).toList ++ rest =
      (printString m.1).toList ++ ':' :: (m.2.print.toList ++ rest) := by
    simp [printMember]
  -- the name is read as a string, then the colon, and then the value in its place
  rw [text, Progress.readText?_token (tokens?_printString m.1), Progress.read?_name start,
    Option.bind_some, Progress.readText?_mark colon]
  exact reads .value _ rest (.inr rfl) depth ends

theorem Progress.namedMembers?_map (members : List (String × Value)) :
    namedMembers? (members.map fun m => (some m.1, m.2.document)) =
      some (members.map fun m => (m.1, m.2.document)) := by
  induction members with
  | nil => rfl
  | cons m rest ih =>
    rw [namedMembers?] at ih
    rw [namedMembers?, List.map_cons, List.mapM_cons, ih]
    rfl

theorem Value.reads_object {members : List (String × Value)} (all : ∀ m ∈ members, m.2.Reads) :
    (Value.object members).Reads := by
  intro place stack rest start depth ends
  have opening : ('\x7b', .openBrace) ∈ punctuation := by simp [punctuation]
  have text : (Value.object members).print.toList ++ rest =
      '\x7b' :: ((",".intercalate (members.map printMember)).toList ++ '\x7d' :: rest) := by
    simp [print, printMembers_eq_map]
  rw [document, memberDocuments_eq_map] at depth
  -- a member is a layer below the object, and so is its value
  have each : Container.object.Reads printMember (fun m => (some m.1, m.2.document)) stack
      members := by
    intro m mem place start ms rest ends
    have below := Document.height_lt_of_mem_object
      (List.mem_map_of_mem (f := fun m : String × Value => (m.1, m.2.document)) mem)
    exact readText?_member (all m mem) start (by omega) ends
  have closed : Progress.close (stack.length + 1) (Container.object.holding
      (members.map fun m => (some m.1, m.2.document)).reverse) =
        (Value.object members).document := by
    rw [Document.height] at depth
    rw [Progress.close_eq (by omega), document, memberDocuments_eq_map]
    simp only [Container.object, List.reverse_reverse, Progress.namedMembers?_map]
  rw [text, Progress.readText?_mark opening, Progress.read?_value start (by decide)]
  exact (Container.readText?_items each).trans (by rw [closed])

/-- A value whose numbers are whole is read from its text. -/
theorem Value.Whole.reads {v : Value} (whole : v.Whole) : v.Reads := by
  -- by the value: leaves are single tokens, and containers hold what is read
  induction whole with
  | null =>
    apply reads_leaf (t := .null) (by simp) fun _ => rfl
    intro rest _
    simp [print, tokens?]
  | bool b =>
    apply reads_leaf (t := .bool b) (by simp) fun _ => rfl
    intro rest _
    cases b with
    | true => simp [print, tokens?]
    | false => simp [print, tokens?]
  | number fits =>
    rename_i n
    apply reads_leaf (t := .number (some (.integer n))) (by simp) fun _ => rfl
    intro rest ends
    exact tokens?_toString fits ends
  | string s =>
    apply reads_leaf (t := .string (some s)) (by simp) fun _ => rfl
    intro rest _
    exact tokens?_printString s
  | array _ ih => exact reads_array ih
  | object _ ih => exact reads_object ih

/-- A value whose numbers are whole, printed and read again, is what it was, unless it is nested
too deeply. -/
theorem Document.read?_print {v : Value} (whole : v.Whole)
    (depth : v.document.height ≤ greatestDepth) : Document.read? v.print = some v.document := by
  -- no container is open at the start, and nothing follows the text
  have all := whole.reads .value [] [] (.inr rfl) (by simpa using depth) Text.ends_nil
  rw [List.append_nil] at all
  rw [Document.read?_eq, Progress.start, all, Progress.readText?_nil]
  rfl

end Sluice.Json
