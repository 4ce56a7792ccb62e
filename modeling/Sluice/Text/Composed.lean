import Sluice.Text.Combining
import Sluice.Text.Compound

/-! # Composed text

A text can be written with compound characters or with their parts, and marks of different classes
in any order. Its composed form is one of these ways: it is taken to its parts, the marks are put in
the order of their classes, and what makes up a compound character is put together again.
-/

namespace Sluice.Text

/-! ### Korean syllables -/

def firstLead : Nat := 0x1100

def firstVowel : Nat := 0x1161

/-- The code point in front of the first trailing consonant. -/
def beforeTrail : Nat := 0x11a7

def firstSyllable : Nat := 0xac00

/-- How many vowels there are, and how many trailing consonants with none counted as one. -/
def vowels : Nat := 21

@[inherit_doc vowels]
def trails : Nat := 28

def syllableParts? (c : Char) : Option (List Char) :=
  let place := c.toNat - firstSyllable
  if c.toNat < firstSyllable || 0xd7a3 < c.toNat then none
  else
    let lead := Char.ofNat (firstLead + place / (vowels * trails))
    let vowel := Char.ofNat (firstVowel + place % (vowels * trails) / trails)
    if place % trails = 0 then some [lead, vowel]
    else some [lead, vowel, Char.ofNat (beforeTrail + place % trails)]

/-- The syllable of a leading consonant and a vowel, or of a syllable without a trailing consonant
and one. -/
def syllable? (first second : Char) : Option Char :=
  let lead := first.toNat - firstLead
  let vowel := second.toNat - firstVowel
  let syllable := first.toNat - firstSyllable
  let trail := second.toNat - beforeTrail
  if firstLead ≤ first.toNat && lead < 19 && firstVowel ≤ second.toNat && vowel < vowels then
    some (Char.ofNat (firstSyllable + (lead * vowels + vowel) * trails))
  else if firstSyllable ≤ first.toNat && first.toNat ≤ 0xd7a3 && syllable % trails = 0 &&
      beforeTrail < second.toNat && trail < trails then
    some (Char.ofNat (first.toNat + trail))
  else none

/-! ### Parts of characters -/

/-- How deep compound characters stand in each other at most. -/
def compoundDepth : Nat := 3

/-- The parts of a character that are not compound themselves. -/
def partsWithin : (depth : Nat) → Char → List Char
  | 0, c => [c]
  | depth + 1, c =>
      match (compounds.row? c).map (·.values) with
      | some [first, second] => partsWithin depth (Char.ofNat first) ++ [Char.ofNat second]
      | _ => [c]

def parts (c : Char) : List Char := (syllableParts? c).getD (partsWithin compoundDepth c)

/-- Put a character in front of marks that are in order: behind those of a lower class. -/
def place (c : Char) : List Char → List Char
  | [] => [c]
  | d :: rest =>
      if 0 < combiningClass d && combiningClass d < combiningClass c then d :: place c rest
      else c :: d :: rest

/-- A text with its marks in the order of their classes. -/
def inOrder (cs : List Char) : List Char := cs.foldr place []

/-! ### Putting together -/

def compound? (first second : Char) : Option Char :=
  (syllable? first second).or
    ((compounds.find? fun row => row.values = [first.toNat, second.toNat]).map fun row =>
      Char.ofNat row.first)

/-- Put the characters behind `base` together with it where nothing between stands in their way;
`between` holds, the last first, what was not put together. -/
def composeBehind (base : Char) : (between : List Char) → List Char → List Char
  | between, [] => base :: between.reverse
  | between, c :: rest =>
      let reachable :=
        match between with
        | [] => true
        | last :: _ => combiningClass last < combiningClass c
      match if reachable then compound? base c else none with
      | some whole => composeBehind whole between rest
      | none =>
          if combiningClass c = 0 then base :: between.reverse ++ composeBehind c [] rest
          else composeBehind base (c :: between) rest

/-- Put together what makes up compound characters; marks in front of everything else stay. -/
def compose (cs : List Char) : List Char :=
  match cs.dropWhile fun c => combiningClass c ≠ 0 with
  | [] => cs
  | base :: rest => (cs.takeWhile fun c => combiningClass c ≠ 0) ++ composeBehind base [] rest

def composed (cs : List Char) : List Char := compose (inOrder (cs.flatMap parts))

end Sluice.Text
