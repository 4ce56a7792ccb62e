import Sluice.Text.Numeral
import Sluice.Text.Pieces

/-! # Addresses of hosts

An address of sixteen bytes stands in brackets, as groups of hexadecimal digits between colons. An
address of four bytes is written as up to four numbers between points; the last of them fills the
bytes that are left.
-/

namespace Sluice.Url

/-! ### Sixteen bytes -/

/-- Whether a text is one group of an address in brackets. -/
def isGroup (cs : List Char) : Bool :=
  1 ≤ cs.length && cs.length ≤ 4 && cs.all fun c => (Text.hexValue? c).isSome

/-- Whether a text is a number below 256 without zeros in front. -/
def isOctet (cs : List Char) : Bool :=
  match cs with
  | [] => false
  | ['0'] => true
  | c :: rest =>
      c ≠ '0' && (c :: rest).all Char.isDigit && cs.length ≤ 3 &&
        (Text.readNat 255 (String.ofList cs)).isOk

/-- Whether a text is four numbers with points between them. -/
def isDotted (cs : List Char) : Bool :=
  let parts := Text.pieces (· = '.') cs
  parts.length = 4 && parts.all isOctet

/-- The number of groups that pieces make up, if each of them is one; the last may be dotted and
then makes up two. -/
def countGroups (dottedAllowed : Bool) : List (List Char) → Option Nat
  | [] => some 0
  | [last] =>
      if isGroup last then some 1 else if dottedAllowed && isDotted last then some 2 else none
  | piece :: rest => if isGroup piece then (countGroups dottedAllowed rest).map (· + 1) else none

/-- The groups of one side of a double colon. -/
def countSide (dottedAllowed : Bool) (cs : List Char) : Option Nat :=
  if cs.isEmpty then some 0 else countGroups dottedAllowed (Text.pieces (· = ':') cs)

/-- The two sides of the first double colon. -/
def splitDoubleColon : List Char → Option (List Char × List Char)
  | ':' :: ':' :: rest => some ([], rest)
  | c :: rest => (splitDoubleColon rest).map fun sides => (c :: sides.1, sides.2)
  | [] => none

/-- Whether a text is an address as brackets hold it: eight groups, or fewer around a double
colon. -/
def isBracketed (cs : List Char) : Bool :=
  match splitDoubleColon cs with
  | none => countGroups true (Text.pieces (· = ':') cs) = some 8
  | some (left, right) =>
      match countSide false left, countSide true right with
      | some l, some r => l + r ≤ 7
      | _, _ => false

/-! ### Four bytes -/

/-- The number that digits spell to a base up to sixteen. -/
def readToBase? (base : Nat) (digits : List Char) : Option Nat :=
  let append (total : Nat) (c : Char) :=
    (Text.hexValue? c).bind fun digit =>
      if digit < base then some (base * total + digit) else none
  digits.foldlM append 0

/-- The number that a label spells: with sixteen digits behind a zero and an `x`, with eight behind
another zero, with ten otherwise. Where no digit follows, it is zero. -/
def readNumber? : List Char → Option Nat
  | [] => none
  | '0' :: 'x' :: digits => readToBase? 16 digits
  | '0' :: 'X' :: digits => readToBase? 16 digits
  | '0' :: digits => readToBase? 8 digits
  | digits => readToBase? 10 digits

/-- The labels of a name without an empty one at the end, unless it is the only one. -/
def dropRoot (labels : List (List Char)) : List (List Char) :=
  if 1 < labels.length && labels.getLast? = some [] then labels.dropLast else labels

/-- Whether the last label of a name makes it an address: it has decimal digits only, or spells a
number. -/
def endsInNumber (labels : List (List Char)) : Bool :=
  match (dropRoot labels).getLast? with
  | none => false
  | some label => !label.isEmpty && (label.all Char.isDigit || (readNumber? label).isSome)

/-- Whether labels spell an address of four bytes: the numbers but the last are bytes, the last fits
into the bytes that are left. -/
def isAddress (labels : List (List Char)) : Bool :=
  match (dropRoot labels).mapM readNumber? with
  | none => false
  | some numbers =>
      numbers.length ≤ 4 && numbers.dropLast.all (· < 256) &&
        numbers.getLast?.any (· < Nat.pow 256 (5 - numbers.length))

end Sluice.Url
