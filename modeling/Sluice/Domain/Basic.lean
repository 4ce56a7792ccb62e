import Sluice.Domain.Direction
import Sluice.Domain.Joining
import Sluice.Domain.Mapping
import Sluice.Domain.Punycode
import Sluice.Text.Composed

/-! # Names of domains

The name of a domain is a sequence of labels with points between them. However it is written, it is
read as its labels in one form: every character replaced by its image, the text composed, and coded
labels decoded. A name is refused if a label holds a character that cannot stand there, begins with
a mark, joins letters that do not join, or mixes directions of writing.
-/

namespace Sluice.Domain

open Sluice.Text

/-! ### Characters -/

/-- The characters of a name with every one replaced by what becomes of it. -/
def readCharacters : List Char → Option (List Char)
  | [] => some []
  | c :: rest =>
      (readCharacters rest).bind fun cs =>
        match Reading.of c with
        | .itself => some (c :: cs)
        | .nothing => some cs
        | .image image => some (image ++ cs)
        | .excluded => none

/-- Whether a character is one of the first 128. -/
def isAscii (c : Char) : Bool := c.toNat < 0x80

/-! ### Labels -/

/-- The class of the signs that cut off the vowel of the letter in front. -/
def cuttingClass : Nat := 9

/-- Whether an invisible joiner may stand between `before`, read backwards, and `rest`: behind a
sign that cuts off a vowel; and one that keeps letters apart, between letters that join
otherwise. -/
def joinerFits (before : List Char) (joiner : Char) (rest : List Char) : Bool :=
  before.head?.any (fun c => combiningClass c = cuttingClass) ||
    (joiner = '\u200c' &&
      (before.dropWhile isTransparent).head?.any joinsAhead &&
      (rest.dropWhile isTransparent).head?.any joinsBack)

/-- Whether every invisible joiner fits; `before` is what stands in front, read backwards. -/
def joinersFit (before : List Char) : List Char → Bool
  | [] => true
  | c :: rest =>
      (!(c = '\u200c' || c = '\u200d') || joinerFits before c rest) && joinersFit (c :: before) rest

/-- How many characters a label can have if it needs to be coded. -/
def longestCoded : Nat := 1000

/-- Whether a label in its one form can stand in a name. -/
def isLabel (label : List Char) : Bool :=
  !label.head?.any isMark && joinersFit [] label &&
    (label.all isAscii || label.length ≤ longestCoded)

def codeMark : List Char := "xn--".toList

/-- How many characters the code of a label can have. -/
def longestCode : Nat := 2000

/-- The label that a code stands for: one that needs to be coded and is in its one form. -/
def decodeLabel? (code : List Char) : Option (List Char) :=
  if code.length ≤ longestCode && code.all isAscii then
    (Punycode.decode code).bind fun label =>
      if !label.all isAscii && label.all (fun c => Reading.of c = .itself) && composed label = label
      then some label
      else none
  else none

def readLabel? (label : List Char) : Option (List Char) :=
  let read :=
    if codeMark.isPrefixOf label then decodeLabel? (label.drop codeMark.length) else some label
  read.bind fun label => if isLabel label then some label else none

/-! ### Directions -/

def isDirected (label : List Char) : Bool :=
  let directions := label.map Direction.of
  let last := (directions.reverse.dropWhile (· = .mark)).head?
  match directions.head? with
  | none => true
  | some .leftToRight =>
      directions.all (fun d => d ≠ .rightToLeft && d ≠ .arabicDigit) &&
        last.any (fun d => d = .leftToRight || d = .europeanDigit)
  | some .rightToLeft =>
      directions.all (· ≠ .leftToRight) &&
        last.any (fun d => d = .rightToLeft || d = .europeanDigit || d = .arabicDigit) &&
        !(.europeanDigit ∈ directions && .arabicDigit ∈ directions)
  | _ => false

/-- Whether a character makes the direction of all labels matter. -/
def turnsAround (c : Char) : Bool :=
  Direction.of c = .rightToLeft || Direction.of c = .arabicDigit

/-- Whether the labels of a name go together. -/
def areDirected (labels : List (List Char)) : Bool :=
  !labels.any (·.any turnsAround) || labels.all isDirected

/-! ### Names -/

/-- The labels of a name in their one form; none if it is no name of a domain. `isForbidden` tells
which characters cannot stand there for other reasons. -/
def labels? (isForbidden : Char → Bool) (name : List Char) : Option (List (List Char)) :=
  ((readCharacters name).map composed).bind fun text =>
    if text.any isForbidden then none
    else
      ((pieces (· = '.') text).mapM readLabel?).bind fun labels =>
        if areDirected labels then some labels else none

end Sluice.Domain
