/-! # Letter case

Names of modes and message types are read without regard to the case of the letters `a` to `z`. All
other characters keep their case.
-/

namespace Sluice.Text

/-- The text with the letters `A` to `Z` made small. -/
def lower (s : String) : String := String.ofList (s.toList.map Char.toLower)

/-- The text with the letters `a` to `z` made capital. -/
def upper (s : String) : String := String.ofList (s.toList.map Char.toUpper)

end Sluice.Text
