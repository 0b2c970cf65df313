import Sluice.Text.CodeRanges

/-!
# Blank characters

The characters with the Unicode property `White_Space`. Blanks separate tokens of the type
language and are trimmed from configuration values.
-/

namespace Sluice.Text

/-- The code points with property `White_Space`. -/
def blankRanges : CodeRanges := [
  (0x9, 0xd), (0x20, 0x20), (0x85, 0x85), (0xa0, 0xa0), (0x1680, 0x1680), (0x2000, 0x200a),
  (0x2028, 0x2029), (0x202f, 0x202f), (0x205f, 0x205f), (0x3000, 0x3000)]

/-- Whether a character has property `White_Space`. -/
def isBlank (c : Char) : Bool :=
  blankRanges.holds c.toNat

/-- The text without the blanks at its start. -/
def trimStart (cs : List Char) : List Char :=
  cs.dropWhile isBlank

/-- The text without the blanks at either end. -/
def trim (cs : List Char) : List Char :=
  (trimStart (trimStart cs).reverse).reverse

end Sluice.Text
