import Sluice.Json.Basic
import Sluice.Text.Integer

/-!
# JSON tokens

A JSON text is a sequence of punctuation, literals, numbers and strings, with blanks (space, tab,
line feed and carriage return) between them. A number whose value is beyond the binary range and a
string that names half of a surrogate pair are tokens too, without a value.

A number without a fraction or an exponent that fits 64 bits, signed or unsigned, is that whole
number; `-0` is not. Every other number is a binary number, found by scaling the leading digits
that fit 64 bits by a power of ten.
-/

namespace Sluice.Json

open Sluice.Number

/-- A token of a JSON text; a number or string without a value is `none`. -/
inductive Token where
  | openBrace
  | closeBrace
  | openBracket
  | closeBracket
  | comma
  | colon
  | null
  | bool (b : Bool)
  | number (n : Option Number)
  | string (s : Option String)
deriving DecidableEq, Repr

/-! ## Numbers -/

/-- The leading digits that fit 64 unsigned bits, and how many digits were left over. -/
def leadingDigits (significand : Nat) : List Char → Nat × Nat
  | [] => (significand, 0)
  | d :: rest =>
    let next := 10 * significand + (d.toNat - '0'.toNat)
    if next ≤ uint64Greatest then leadingDigits next rest else (significand, rest.length + 1)

/-- `x` scaled by `10 ^ exponent`: one product or quotient, after quotients by `10 ^ 308` while the
exponent is below the table of powers. Nothing if the result is beyond the binary range. -/
def scaleByTen (x : Binary64) (exponent : Int) : Option Binary64 :=
  if 0 ≤ exponent then
    -- a number that is zero stays so, whatever its exponent
    if x.isZero then some x
    else if 308 < exponent then none
    else
      let y := x.times (Binary64.powerOfTen exponent.toNat)
      if y.isInfinite then none else some y
  else
    some (reduce x (-exponent).toNat 6)
where
  /-- Divides by `10 ^ down`, at most `10 ^ 308` at a time. -/
  reduce (x : Binary64) (down : Nat) : Nat → Binary64
    | 0 => x
    | steps + 1 =>
      if x.isZero then x
      else if down ≤ 308 then x.dividedBy (Binary64.powerOfTen down)
      else reduce (x.dividedBy (Binary64.powerOfTen 308)) (down - 308) steps

/-- A number as written: its sign, the digits before and after the point, and the exponent. -/
structure NumberText where
  negative : Bool
  whole : List Char
  fraction : List Char
  exponent : Option Int
deriving DecidableEq, Repr

/-- The binary number a text denotes, if it is within range. -/
def NumberText.double? (t : NumberText) : Option Binary64 :=
  let (significand, beyond) := leadingDigits 0 t.whole
  let (significand, unused) := leadingDigits significand t.fraction
  let exponent := (beyond : Int) - (t.fraction.length - unused : Nat) + t.exponent.getD 0
  (scaleByTen (.nearest false significand 1) exponent).map (·.withSign t.negative)

/-- The number a text denotes, if it is within range. -/
def NumberText.number? (t : NumberText) : Option Number :=
  let n := Text.natOfDigits t.whole
  let integral := t.fraction.isEmpty && t.exponent.isNone
  if integral && !t.negative && n ≤ uint64Greatest then some (.integer n)
  else if integral && t.negative && n ≠ 0 && -(n : Int) ≥ int64Least then some (.integer (-n))
  else t.double?.map .double

/-- Whether a character occurs in the text of a number. -/
def isNumberChar (c : Char) : Bool :=
  c.isDigit || c == '-' || c == '+' || c == '.' || c == 'e' || c == 'E'

/-- Reads digits without a leading zero. -/
def wholePart? (cs : List Char) : Option (List Char) :=
  if cs.isEmpty || !cs.all Char.isDigit then none
  else if cs.head? == some '0' && cs ≠ ['0'] then none
  else some cs

/-- Reads a fraction: nothing at all, or a point and one or more digits. -/
def fractionPart? : List Char → Option (List Char)
  | [] => some []
  | _ :: ds => if ds.isEmpty || !ds.all Char.isDigit then none else some ds

/-- Reads an exponent: nothing at all, or a mark and a whole number. -/
def exponentPart? : List Char → Option (Option Int)
  | [] => some none
  | _ :: ds => (Text.readInteger? ds).map some

/-- Reads the text of an unsigned number. -/
def readUnsigned? (negative : Bool) (cs : List Char) : Option NumberText := do
  let isMark (c : Char) : Bool := c == 'e' || c == 'E'
  let mantissa := cs.takeWhile (!isMark ·)
  let whole ← wholePart? (mantissa.takeWhile (· != '.'))
  let fraction ← fractionPart? (mantissa.dropWhile (· != '.'))
  let exponent ← exponentPart? (cs.dropWhile (!isMark ·))
  return { negative, whole, fraction, exponent }

/-- Reads the text of a number. -/
def readNumber? : List Char → Option NumberText
  | '-' :: cs => readUnsigned? true cs
  | cs => readUnsigned? false cs

/-! ## Strings -/

/-- The value of a hexadecimal digit. -/
def hexDigit? (c : Char) : Option Nat :=
  if c.isDigit then some (c.toNat - '0'.toNat)
  else if 'a' ≤ c && c ≤ 'f' then some (c.toNat - 'a'.toNat + 10)
  else if 'A' ≤ c && c ≤ 'F' then some (c.toNat - 'A'.toNat + 10)
  else none

/-- The value of four hexadecimal digits. -/
def hexUnit? (a b c d : Char) : Option Nat := do
  let a ← hexDigit? a
  let b ← hexDigit? b
  let c ← hexDigit? c
  let d ← hexDigit? d
  return 4096 * a + 256 * b + 16 * c + d

/-- The character that a short escape stands for. -/
def shortEscape? (c : Char) : Option Char :=
  if c == '"' || c == '\\' || c == '/' then some c
  else if c == 'b' then some '\x08'
  else if c == 'f' then some '\x0c'
  else if c == 'n' then some '\n'
  else if c == 'r' then some '\r'
  else if c == 't' then some '\t'
  else none

/-- One piece of a string: a character, or a 16-bit unit named by its number. -/
inductive Piece where
  | char (c : Char)
  | unit (n : Nat)
deriving DecidableEq, Repr

/-- Splits the rest of a string, up to its closing quote, off the text. -/
def takePieces : List Char → Option (List Piece × List Char)
  | '"' :: rest => some ([], rest)
  | '\\' :: 'u' :: a :: b :: c :: d :: rest =>
    match hexUnit? a b c d, takePieces rest with
    | some n, some (ps, rest) => some (.unit n :: ps, rest)
    | _, _ => none
  | '\\' :: e :: rest =>
    match shortEscape? e, takePieces rest with
    | some c, some (ps, rest) => some (.char c :: ps, rest)
    | _, _ => none
  | c :: rest =>
    -- control characters must be escaped
    if c.toNat < 0x20 || c == '\\' then none
    else (takePieces rest).map fun (ps, rest) => (.char c :: ps, rest)
  | [] => none

/-- The characters of a string, its surrogate pairs joined; nothing if one has no partner. -/
def joinPieces : List Piece → Option (List Char)
  | [] => some []
  | .char c :: rest => (joinPieces rest).map (c :: ·)
  | .unit high :: .unit low :: rest =>
    -- a high surrogate must be followed by a low one
    if 0xd800 ≤ high && high < 0xdc00 then
      if 0xdc00 ≤ low && low < 0xe000 then
        (joinPieces rest).map
          (Char.ofNat (0x10000 + (high - 0xd800) * 0x400 + (low - 0xdc00)) :: ·)
      else none
    else if 0xdc00 ≤ high && high < 0xe000 then none
    else (joinPieces (.unit low :: rest)).map (Char.ofNat high :: ·)
  | .unit n :: rest =>
    if 0xd800 ≤ n && n < 0xe000 then none
    else (joinPieces rest).map (Char.ofNat n :: ·)

/-- The rest of a text after a string is no longer than the text. -/
theorem takePieces_length {cs rest : List Char} {ps : List Piece}
    (h : takePieces cs = some (ps, rest)) : rest.length ≤ cs.length := by
  fun_induction takePieces cs generalizing ps rest with
  | case1 => grind
  | case2 a b c d cs n ps' cs' ht hn ih =>
    have := ih ht
    have : rest = cs' := by grind
    simp only [this, List.length_cons]
    omega
  | case3 => grind
  | case4 => grind
  | case5 => grind
  | case6 => grind
  | case7 c cs _ _ _ _ ih =>
    obtain ⟨⟨ps', cs'⟩, ht, he⟩ := Option.map_eq_some_iff.1 h
    have := ih ht
    have : rest = cs' := by grind
    simp only [this, List.length_cons]
    omega
  | case8 => grind

/-! ## The token sequence -/

/-- Whether a character may stand between tokens. -/
def isSpace (c : Char) : Bool :=
  c == ' ' || c == '\n' || c == '\t' || c == '\r'

/-- The tokens of a text; nothing if it is not made of tokens. -/
def tokens? : List Char → Option (List Token)
  | [] => some []
  | 'n' :: 'u' :: 'l' :: 'l' :: rest => (tokens? rest).map (.null :: ·)
  | 't' :: 'r' :: 'u' :: 'e' :: rest => (tokens? rest).map (.bool true :: ·)
  | 'f' :: 'a' :: 'l' :: 's' :: 'e' :: rest => (tokens? rest).map (.bool false :: ·)
  | c :: rest =>
    if isSpace c then tokens? rest
    else if c == '\x7b' then (tokens? rest).map (.openBrace :: ·)
    else if c == '\x7d' then (tokens? rest).map (.closeBrace :: ·)
    else if c == '[' then (tokens? rest).map (.openBracket :: ·)
    else if c == ']' then (tokens? rest).map (.closeBracket :: ·)
    else if c == ',' then (tokens? rest).map (.comma :: ·)
    else if c == ':' then (tokens? rest).map (.colon :: ·)
    else if c == '"' then
      match h : takePieces rest with
      -- the string ends at its closing quote, beyond which tokens begin again
      | some (ps, rest') =>
        have := takePieces_length h
        (tokens? rest').map (.string ((joinPieces ps).map String.ofList) :: ·)
      | none => none
    else if isNumberChar c then
      have : (rest.dropWhile isNumberChar).length ≤ rest.length :=
        (List.dropWhile_sublist _).length_le
      match readNumber? (c :: rest.takeWhile isNumberChar) with
      | some t => (tokens? (rest.dropWhile isNumberChar)).map (.number t.number? :: ·)
      | none => none
    else none
termination_by cs => cs.length

end Sluice.Json
