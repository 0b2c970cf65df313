/-!
# Ranges of code points

A property of characters is a list of inclusive ranges of code points. The lists of this library
are in increasing order, which lets a search stop at the first range that ends at or after the
code point it looks for.
-/

namespace Sluice.Text

/-- A set of code points, as inclusive ranges in increasing order. -/
abbrev CodeRanges := List (Nat × Nat)

/-- Whether one of the ranges holds the code point. -/
def CodeRanges.holds : CodeRanges → Nat → Bool
  | [], _ => false
  | (first, last) :: rest, code =>
    if code ≤ last then first ≤ code else CodeRanges.holds rest code

end Sluice.Text
