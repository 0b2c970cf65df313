/-!
# ASCII case

Names of types and of logical decimals are matched without regard to the case of ASCII letters;
other letters must match exactly.
-/

namespace Sluice.Text

/-- The text with ASCII letters in upper case. -/
def asciiUpper (s : String) : String :=
  String.ofList (s.toList.map Char.toUpper)

/-- Whether two texts agree up to the case of ASCII letters. -/
def asciiEqual (a b : String) : Bool :=
  asciiUpper a == asciiUpper b

end Sluice.Text
