import Sluice.Keyed
import Sluice.Text.Blank
import Sluice.Text.Pieces

/-! # Property texts

One property a line: a key, an equals sign or a colon, a value, all with white space around them
that does not count. The first of the two signs on a line separates. Blank lines and lines that
start with `#` or `!` are skipped. Of two lines with one key the later stays. `Properties.parse`
reports the first line that is none of these, by its number from one.
-/

namespace Sluice

abbrev Properties := Keyed String

namespace Properties

/-- What is wrong with a line. -/
inductive LineFault where
  /-- There is neither an equals sign nor a colon. -/
  | noSeparator
  /-- There is nothing but white space before the separator. -/
  | emptyKey
deriving DecidableEq, Repr

def LineFault.message : LineFault → String
  | .noSeparator => "expected key=value"
  | .emptyKey => "empty key"

/-- What a line says. -/
inductive Line where
  | skipped
  | entry (key value : String)
  | faulty (fault : LineFault)
deriving DecidableEq, Repr

def isSeparator (c : Char) : Bool := c = '=' || c = ':'

/-- Whether a trimmed line is blank or a comment. -/
def isSkipped : List Char → Bool
  | [] => true
  | c :: _ => c = '#' || c = '!'

def readLine (line : List Char) : Line :=
  let shown := Text.trimChars line
  if isSkipped shown then .skipped
  else
    match shown.dropWhile (fun c => !isSeparator c) with
    | [] => .faulty .noSeparator
    | _ :: value =>
        match Text.trimChars (shown.takeWhile (fun c => !isSeparator c)) with
        | [] => .faulty .emptyKey
        | key => .entry (String.ofList key) (String.ofList (Text.trimChars value))

/-- Read lines numbered from `number` on, laying their entries over those read before. -/
def readLines (number : Nat) (before : Properties) :
    List (List Char) → Except (Nat × LineFault) Properties
  | [] => .ok before
  | line :: rest =>
      match readLine line with
      | .skipped => readLines (number + 1) before rest
      | .entry key value => readLines (number + 1) (before.insert key value) rest
      | .faulty fault => .error (number, fault)

def parse (text : String) : Except (Nat × LineFault) Properties :=
  readLines 1 Keyed.empty (Text.splitLines text.toList)

end Properties

end Sluice
