import Sluice.Pattern.Basic
import Sluice.Text.Alphanumeric
import Sluice.Text.Blank
import Sluice.Text.Numeral

/-! # Reading patterns

A pattern is read from left to right. Where patterns are spaced, white space and remarks may stand
between any two parts, even between the digits of a number. Counted repetitions are not part of this
language, and neither are sets by property and references to groups.
-/

namespace Sluice.Pattern

/-! ### Space -/

def skipRemarks : (inRemark : Bool) → List Char → List Char
  | _, [] => []
  | true, c :: rest => skipRemarks (c ≠ '\n') rest
  | false, c :: rest =>
      if Text.isBlank c then skipRemarks false rest
      else if c = '#' then skipRemarks true rest
      else c :: rest

def skip (spaced : Bool) (cs : List Char) : List Char :=
  if spaced then skipRemarks false cs else cs

/-- The character that comes next, as far as it can be told without reading remarks. -/
def glance? (spaced : Bool) (cs : List Char) : Option Char :=
  if spaced then
    let shown :=
      match cs.dropWhile Text.isBlank with
      | '#' :: rest => rest.dropWhile Text.isBlank
      | shown => shown
    shown.head?.or cs.head?
  else cs.head?

/-! ### Single characters -/

/-- What one character or one escape stands for. -/
inductive Sign where
  | literal (l : PatternLiteral)
  | shorthand (negated : Bool)
  | edge
  | wordEdge
deriving DecidableEq, Repr

/-- Read so many more hexadecimal digits of a number. -/
def readDigits (spaced : Bool) : (count total : Nat) → List Char → Option (Nat × List Char)
  | 0, total, cs => some (total, cs)
  | _ + 1, _, [] => none
  | count + 1, total, c :: rest =>
      match Text.hexValue? c with
      | none => none
      | some digit => readDigits spaced count (16 * total + digit) (skip spaced rest)

/-- Read the character of a number with so many digits. -/
def readNumbered (spaced : Bool) (count : Nat) (cs : List Char) :
    Option (PatternLiteral × List Char) :=
  match readDigits spaced count 0 (skip spaced cs) with
  | none => none
  | some (code, rest) =>
      if code.isValidChar then some (⟨Char.ofNat code, count = 2⟩, rest) else none

/-- The control character that a letter stands for. -/
def control? (c : Char) : Option Char :=
  if c = 'a' then some '\x07'
  else if c = 'f' then some '\x0c'
  else if c = 't' then some '\t'
  else if c = 'n' then some '\n'
  else if c = 'r' then some '\r'
  else if c = 'v' then some '\x0b'
  else none

/-- Whether an escape makes a character stand for itself. -/
def isEscapable (c : Char) : Bool :=
  c.toNat < 0x80 && !c.isAlphanum && c ≠ '<' && c ≠ '>'

def readEscape (spaced : Bool) : List Char → Option (Sign × List Char)
  | [] => none
  | c :: rest =>
      let numbered (count : Nat) :=
        (readNumbered spaced count rest).map fun (l, rest) => (Sign.literal l, rest)
      if isEscapable c then some (.literal ⟨c, false⟩, rest)
      else if c = 'x' then numbered 2
      else if c = 'u' then numbered 4
      else if c = 'U' then numbered 8
      else if c = 'd' || c = 's' || c = 'w' then some (.shorthand false, rest)
      else if c = 'D' || c = 'S' || c = 'W' then some (.shorthand true, rest)
      else if c = 'A' || c = 'z' then some (.edge, rest)
      else if c = 'b' || c = 'B' || c = '<' || c = '>' then some (.wordEdge, rest)
      else (control? c).map fun c => (.literal ⟨c, false⟩, rest)

/-! ### Sets -/

def setNames : List String :=
  ["alnum", "alpha", "ascii", "blank", "cntrl", "digit", "graph", "lower", "print", "punct",
    "space", "upper", "word", "xdigit"]

/-- Read a set by its name, behind the bracket that opens it. -/
def readNamed? : List Char → Option (CharacterSet × List Char)
  | ':' :: rest =>
      let (negated, rest) :=
        match rest with
        | '^' :: rest => (true, rest)
        | _ => (false, rest)
      match rest.dropWhile (· ≠ ':') with
      | ':' :: ']' :: behind =>
          if String.ofList (rest.takeWhile (· ≠ ':')) ∈ setNames then some (.named negated, behind)
          else none
      | _ => none
  | _ => none

def readMember (spaced : Bool) : List Char → Option (Sign × List Char)
  | [] => none
  | '\\' :: rest => readEscape spaced rest
  | c :: rest => some (.literal ⟨c, false⟩, rest)

def setOfSign? : Sign → Option CharacterSet
  | .literal l => some (.literal l)
  | .shorthand negated => some (.shorthand negated)
  | _ => none

/-- The set of all characters between two. -/
def setBetween? : Sign → Sign → Option CharacterSet
  | .literal first, .literal last =>
      if first.char ≤ last.char then some (.range first last) else none
  | _, _ => none

/-- Read a member of a set or all characters between two. A hyphen stands for itself in front of a
bracket or of another hyphen. -/
def readMembers (spaced : Bool) (cs : List Char) : Option (CharacterSet × List Char) :=
  match readMember spaced cs with
  | none => none
  | some (first, rest) =>
      match skip spaced rest with
      | '-' :: behind =>
          let next := glance? spaced behind
          if next = some ']' || next = some '-' then
            (setOfSign? first).map fun set => (set, '-' :: behind)
          else
            match readMember spaced (skip spaced behind) with
            | none => none
            | some (last, rest) => (setBetween? first last).map fun set => (set, rest)
      | rest => (setOfSign? first).map fun set => (set, rest)

def unionOf : List CharacterSet → CharacterSet
  | [] => .empty
  | [set] => set
  | sets => .union sets

/-- What an operator makes of the set in front of it, if there is one, and the sets behind it. -/
def combine (left : Option CharacterSet) (sets : List CharacterSet) : CharacterSet :=
  match left with
  | none => unionOf sets
  | some left => .combined left (unionOf sets)

/-- How far a set has been read. -/
inductive SetPlace where
  /-- Nothing has been read: a closing bracket stands for itself. -/
  | start
  /-- Nothing but hyphens, which stand for themselves, has been read. -/
  | hyphens
  | inside
deriving DecidableEq, Repr

/-- The characters behind the operator between two sets, if they begin with one. -/
def behindOperator? : List Char → Option (List Char)
  | '&' :: '&' :: rest => some rest
  | '-' :: '-' :: rest => some rest
  | '~' :: '~' :: rest => some rest
  | _ => none

/-- Whether a set is negated, and the characters behind that. -/
def readNegation (spaced : Bool) (cs : List Char) : Bool × List Char :=
  match skip spaced cs with
  | '^' :: rest => (true, rest)
  | rest => (false, rest)

/-- Read a set up to the bracket that closes it. What was read of it is `left` in front of the last
operator and `sets` behind it, the last one first. Every step takes a character, so `fuel` is their
number. -/
def readSetRest (spaced : Bool) : (fuel : Nat) → SetPlace → Option CharacterSet →
    List CharacterSet → List Char → Option (CharacterSet × List Char)
  | 0, _, _, _, _ => none
  | fuel + 1, place, left, sets, cs =>
      let cs := skip spaced cs
      let literal (c : Char) (place : SetPlace) (rest : List Char) :=
        readSetRest spaced fuel place left (.literal ⟨c, false⟩ :: sets) rest
      match place, cs with
      | _, [] => none
      | .start, '-' :: rest => literal '-' .hyphens rest
      | .hyphens, '-' :: rest => literal '-' .hyphens rest
      | .start, ']' :: rest => literal ']' .inside rest
      | _, ']' :: rest => some (combine left sets.reverse, rest)
      | _, '[' :: rest =>
          match readNamed? rest with
          | some (set, rest) => readSetRest spaced fuel .inside left (set :: sets) rest
          | none =>
              let (negated, rest) := readNegation spaced rest
              match readSetRest spaced fuel .start none [] rest with
              | none => none
              | some (set, rest) =>
                  readSetRest spaced fuel .inside left (.bracketed negated set :: sets) rest
      | _, cs =>
          match behindOperator? cs with
          | some rest => readSetRest spaced fuel .inside (some (combine left sets.reverse)) [] rest
          | none =>
              match readMembers spaced cs with
              | none => none
              | some (set, rest) => readSetRest spaced fuel .inside left (set :: sets) rest

/-- Read a set behind the bracket that opens it. -/
def readSet (spaced : Bool) (cs : List Char) : Option (CharacterSet × List Char) :=
  let (negated, rest) := readNegation spaced cs
  (readSetRest spaced (rest.length + 1) .start none [] rest).map fun (set, rest) =>
    (.bracketed negated set, rest)

/-! ### Groups -/

def flagOf? (c : Char) : Option PatternFlag :=
  if c = 'i' then some .anyCase
  else if c = 'm' then some .lineByLine
  else if c = 's' then some .acrossLines
  else if c = 'U' then some .reluctant
  else if c = 'u' then some .characters
  else if c = 'R' then some .carriageReturns
  else if c = 'x' then some .spaced
  else none

/-- Read flags up to the colon or the parenthesis behind them: the flags, whether a colon was there,
and what follows. One hyphen may stand in front of the flags that are turned off, of which there has
to be one then. -/
def readFlags (on : Bool) (afterHyphen : Bool) (flags : PatternFlags) :
    List Char → Option (PatternFlags × Bool × List Char)
  | [] => none
  | c :: rest =>
      if c = ':' || c = ')' then
        if afterHyphen then none else some (flags.reverse, c = ':', rest)
      else if c = '-' then if on then readFlags false true flags rest else none
      else
        match flagOf? c with
        | none => none
        | some flag =>
            if (flags.find? flag).isSome then none
            else readFlags on false ((flag, on) :: flags) rest

/-- Whether a character can stand in the name of a group. -/
def isGroupNameChar (isFirst : Bool) (c : Char) : Bool :=
  c = '_' ||
    if isFirst then Text.isAlphabetic c
    else c = '.' || c = '[' || c = ']' || Text.isAlphanumeric c

/-- Read the name of a group up to the angle bracket that closes it. -/
def readGroupName (cs : List Char) : Option (String × List Char) :=
  match cs.takeWhile (· ≠ '>'), cs.dropWhile (· ≠ '>') with
  | c :: name, _ :: rest =>
      if isGroupNameChar true c && name.all (isGroupNameChar false) then
        some (String.ofList (c :: name), rest)
      else none
  | _, _ => none

/-- What a parenthesis opens. -/
inductive Opening where
  /-- A group with flags of its own. -/
  | group (flags : PatternFlags)
  /-- A group with a name. -/
  | named (name : String)
  /-- No group, but flags for what follows. -/
  | flags (flags : PatternFlags)
deriving DecidableEq

/-- Read what a parenthesis opens. Groups that look ahead or back are not part of this language. -/
def readOpening (cs : List Char) : Option (Opening × List Char) :=
  let named (rest : List Char) :=
    (readGroupName rest).map fun (name, rest) => (Opening.named name, rest)
  match cs with
  | '?' :: 'P' :: '<' :: rest => named rest
  | '?' :: '<' :: rest => named rest
  | '?' :: rest =>
      match readFlags true false [] rest with
      | none => none
      | some (flags, true, rest) => some (.group flags, rest)
      | some (flags, false, rest) => if flags.isEmpty then none else some (.flags flags, rest)
  | rest => some (.group [], rest)

/-! ### Patterns -/

/-- The pattern of several patterns, one behind the other. -/
def sequenceOf : List Pattern → Pattern
  | [] => .empty
  | [p] => p
  | ps => .sequence ps

/-- The pattern of one of several patterns. -/
def choiceOf : List Pattern → Pattern
  | [p] => p
  | ps => .choice ps

def isRepeatable : Pattern → Bool
  | .empty => false
  | .setting _ => false
  | _ => true

def ofSign : Sign → Pattern
  | .literal l => .literal l
  | .shorthand negated => .oneOf (.shorthand negated)
  | .edge => .edge
  | .wordEdge => .wordEdge

/-- The characters behind a sign of repetition, with whether it asks for as few as possible. -/
def behindRepetition : List Char → List Char
  | '?' :: rest => rest
  | rest => rest

/-- What is known in the midst of reading a pattern. -/
structure Progress where
  /-- Whether the pattern is spaced here. -/
  spaced : Bool := false
  /-- The names of the groups so far. -/
  names : List String := []
  /-- The characters that are left. -/
  rest : List Char

/-- Read a pattern up to its end or to the parenthesis that closes its group. What was read of it
are `choices`, and `parts` of the last choice, each with the last one first. Every step takes a
character, so `fuel` is their number. -/
def readRest : (fuel : Nat) → (choices parts : List Pattern) → Progress →
    Option (Pattern × Progress)
  | 0, _, _, _ => none
  | fuel + 1, choices, parts, p =>
      let whole := choiceOf (sequenceOf parts.reverse :: choices).reverse
      let goOn (part : Pattern) (rest : List Char) :=
        readRest fuel choices (part :: parts) { p with rest }
      match skip p.spaced p.rest with
      | [] => some (whole, { p with rest := [] })
      | ')' :: rest => some (whole, { p with rest := ')' :: rest })
      | '|' :: rest => readRest fuel (sequenceOf parts.reverse :: choices) [] { p with rest }
      | '(' :: rest =>
          let readGroup (flags : PatternFlags) (names : List String) (rest : List Char) :=
            let spaced := (flags.find? .spaced).getD p.spaced
            match readRest fuel [] [] { spaced, names, rest } with
            | some (inner, { names, rest := ')' :: rest, .. }) =>
                readRest fuel choices (.group flags inner :: parts)
                  { spaced := p.spaced, names, rest }
            | _ => none
          match readOpening (skip p.spaced rest) with
          | none => none
          | some (.flags flags, rest) =>
              readRest fuel choices (.setting flags :: parts)
                { p with spaced := (flags.find? .spaced).getD p.spaced, rest }
          | some (.group flags, rest) => readGroup flags p.names rest
          | some (.named name, rest) =>
              if name ∈ p.names then none else readGroup [] (name :: p.names) rest
      | '[' :: rest =>
          match readSet p.spaced rest with
          | none => none
          | some (set, rest) => goOn (.oneOf set) rest
      | '\x7b' :: _ => none
      | '\\' :: rest =>
          match readEscape p.spaced rest with
          | none => none
          | some (sign, rest) => goOn (ofSign sign) rest
      | '.' :: rest => goOn .point rest
      | '^' :: rest => goOn .edge rest
      | '$' :: rest => goOn .edge rest
      | c :: rest =>
          if c = '*' || c = '+' || c = '?' then
            match parts with
            | [] => none
            | part :: parts =>
                if isRepeatable part then
                  readRest fuel choices (.repeated part :: parts)
                    { p with rest := behindRepetition rest }
                else none
          else goOn (.literal ⟨c, false⟩) rest

def ofText? (cs : List Char) : Option Pattern :=
  match readRest (cs.length + 1) [] [] { rest := cs } with
  | some (p, { rest := [], .. }) => some p
  | _ => none

end Sluice.Pattern
