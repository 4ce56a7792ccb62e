import Sluice.Url.Basic

/-! # Options of a URL

The query of a URL is a list of names with values.
-/

namespace Sluice.Url

/-- The text of an escaped name or value; a plus sign stands for a space. -/
def unescapeText (cs : List Char) : String :=
  (unescape (cs.map fun c => if c = '+' then ' ' else c)).toLossyString

def pairs (query : List Char) : List (String × String) :=
  ((Text.pieces (· = '&') query).filter fun piece => !piece.isEmpty).map fun piece =>
    (unescapeText (piece.takeWhile (· ≠ '=')), unescapeText ((piece.dropWhile (· ≠ '=')).drop 1))

/-- The options of a URL; of two with one name the later stays. -/
def options (u : Url) : List (String × String) := pairs (u.query.getD [])

end Sluice.Url
