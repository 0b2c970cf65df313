import Sluice.Text.Printable

/-!
# Quoted text

Messages show text that a client supplied between double quotes, so that its ends and its unusual
characters are visible. A quote and a backslash are escaped, the common control characters have
short escapes, and every other character that is not printable, or that would join the character
before it, is shown by its code point. A single quote stands for itself.
-/

namespace Sluice.Text

/-- The escape that shows a code point in lower-case hexadecimal. -/
def codePointEscape (c : Char) : List Char :=
  ['\\', 'u', '\x7b'] ++ Nat.toDigits 16 c.toNat ++ ['\x7d']

/-- The characters that stand for `c` between quotes. -/
def quotedChar (c : Char) : List Char :=
  if c == '\x00' then ['\\', '0']
  else if c == '\t' then ['\\', 't']
  else if c == '\r' then ['\\', 'r']
  else if c == '\n' then ['\\', 'n']
  else if c == '"' || c == '\\' then ['\\', c]
  else if isPrintable c && !extendsGrapheme c then [c]
  else codePointEscape c

/-- The text between double quotes. -/
def quoted (s : String) : String :=
  String.ofList ('"' :: s.toList.flatMap quotedChar ++ ['"'])

end Sluice.Text
