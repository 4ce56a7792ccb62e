/-! # Punycode

A way to write any text with letters, digits and hyphens. What stands in front of the last hyphen is
taken as it is; behind it, numbers say which characters are put in and where. A number is written
with the lowest digit first; how far its digits reach adapts to the numbers before it.
-/

namespace Sluice.Domain.Punycode

/-- The value of a digit: the letters come before the numerals. -/
def digitValue? (c : Char) : Option Nat :=
  if c.isLower then some (c.toNat - 'a'.toNat)
  else if c.isUpper then some (c.toNat - 'A'.toNat)
  else if c.isDigit then some (c.toNat - '0'.toNat + 26)
  else none

def base : Nat := 36

/-- The bound on the numbers that are computed with. -/
def bound : Nat := Nat.pow 2 32

/-- The digit from which on a number goes on, at a place and with a bias. -/
def threshold (bias place : Nat) : Nat :=
  if place ≤ bias then 1 else if bias + 26 ≤ place then 26 else place - bias

/-- Divide a number by 35 until it is small enough, and count 36 each time. -/
def shrink (count n : Nat) : Nat × Nat :=
  if 455 < n then shrink (count + base) (n / 35) else (count, n)
termination_by n
decreasing_by omega

/-- The bias behind a number `n`, with `size` characters after it took effect. -/
def adapt (isFirst : Bool) (size n : Nat) : Nat :=
  let scaled := if isFirst then n / 700 else n / 2
  let (count, rest) := shrink 0 (scaled + scaled / size)
  count + base * rest / (rest + 38)

/-- What is known in the midst of decoding. -/
structure Progress where
  /-- The text so far. -/
  text : List Char
  /-- The code point of the character that is put in next. -/
  code : Nat := 0x80
  /-- Where it is put in. -/
  position : Nat := 0
  /-- The bias. -/
  bias : Nat := 72
  /-- Whether no number has been read. -/
  isFirst : Bool := true
  /-- The number that is being read. -/
  number : Nat := 0
  /-- What the next digit counts. -/
  weight : Nat := 1
  /-- The place of the next digit. -/
  place : Nat := base
deriving Repr

namespace Progress

/-- Whether no number is left half read. -/
def isSettled (p : Progress) : Bool := p.place = base

/-- Put the character in that the number read points out. -/
def insert? (p : Progress) : Option Progress :=
  let size := p.text.length + 1
  let reached := p.position + p.number
  let code := p.code + reached / size
  let position := reached % size
  if code < 0x110000 && !(0xd800 ≤ code && code < 0xe000) then
    some {
      text := p.text.insertIdx position (Char.ofNat code)
      code
      position := position + 1
      bias := adapt p.isFirst size p.number
      isFirst := false }
  else none

def step? (p : Progress) (c : Char) : Option Progress :=
  match digitValue? c with
  | none => none
  | some digit =>
      let number := p.number + digit * p.weight
      let limit := threshold p.bias p.place
      let weight := p.weight * (base - limit)
      if bound ≤ p.position + number then none
      else if digit < limit then insert? { p with number }
      else if bound ≤ weight then none
      else some { p with number, weight, place := p.place + base }

end Progress

/-- The text in front of the last hyphen and the digits behind it. A hyphen with nothing in front of
it does not count. -/
def splitPlain (cs : List Char) : List Char × List Char :=
  let digits := (cs.reverse.takeWhile (· ≠ '-')).reverse
  let plain := cs.take (cs.length - digits.length - 1)
  if plain.isEmpty then ([], cs) else (plain, digits)

/-- The text that is written in this way; none if nothing is. -/
def decode (cs : List Char) : Option (List Char) :=
  let (plain, digits) := splitPlain cs
  match digits.foldlM Progress.step? { text := plain } with
  | some p => if p.isSettled then some p.text else none
  | none => none

end Sluice.Domain.Punycode
