import Sluice.Text.Blank
import Sluice.Text.Numeral
import Sluice.Text.Pieces

/-! # Tables of characters

A table lists characters by their code points, and what it says of them. It is written as text: rows
between white space, each a code point or the first and the last of several, in hexadecimal digits.
A hyphen between the two takes every code point, a slash every second one. Values follow behind a
colon, with points between them.
-/

namespace Sluice.Text

/-- A row of a table of characters. -/
structure CodeRow where
  /-- The first code point. -/
  first : Nat
  /-- The last code point. -/
  last : Nat
  /-- How far one code point is from the next. -/
  step : Nat
  /-- What the row says of its characters. -/
  values : List Nat
deriving DecidableEq, Repr

def readHex (digits : List Char) : Nat :=
  digits.foldl (fun total c => 16 * total + (hexValue? c).getD 0) 0

namespace CodeRow

/-- Whether a row speaks of a character. -/
def covers (row : CodeRow) (c : Char) : Bool :=
  row.first ≤ c.toNat && c.toNat ≤ row.last && (c.toNat - row.first) % row.step = 0

/-- The code points of a written row: the first, the last and the step. -/
def readCodes (written : List Char) : Nat × Nat × Nat :=
  let step := if '/' ∈ written then 2 else 1
  match pieces (fun c => c = '-' || c = '/') written with
  | [first, last] => (readHex first, readHex last, step)
  | _ => (readHex written, readHex written, step)

def ofWritten (written : List Char) : CodeRow :=
  let (first, last, step) := readCodes (written.takeWhile (· ≠ ':'))
  let values := (written.dropWhile (· ≠ ':')).drop 1
  { first, last, step,
    values := if values.isEmpty then [] else (pieces (· = '.') values).map readHex }

end CodeRow

abbrev CodeTable := List CodeRow

namespace CodeTable

def ofWritten (written : String) : CodeTable :=
  ((pieces isBlank written.toList).filter fun row => !row.isEmpty).map CodeRow.ofWritten

/-- The first row that speaks of a character. -/
def row? (table : CodeTable) (c : Char) : Option CodeRow := table.find? (·.covers c)

def contains (table : CodeTable) (c : Char) : Bool := (table.row? c).isSome

end CodeTable

end Sluice.Text
