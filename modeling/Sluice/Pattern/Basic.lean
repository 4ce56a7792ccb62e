/-! # Patterns

A pattern describes a set of texts. Letters and digits stand for themselves, other characters put
patterns together. Flags in the midst of a pattern say how what follows is meant, up to the end of
the group.

A pattern is of use only if it can be told of a text, byte by byte, whether it is described. That
needs a table of all characters for some patterns, and no such table is at hand: `Pattern.settle`
finds the patterns that get along without one.
-/

namespace Sluice

/-- What can be said about the meaning of a pattern. -/
inductive PatternFlag where
  /-- The case of letters does not matter. -/
  | anyCase
  /-- The start and the end of a line count as those of the text. -/
  | lineByLine
  /-- A point stands for the end of a line too. -/
  | acrossLines
  /-- What is repeated is repeated as seldom as possible. -/
  | reluctant
  /-- Characters are meant, not bytes. -/
  | characters
  /-- A carriage return belongs to the end of a line. -/
  | carriageReturns
  /-- White space and remarks between the parts of a pattern do not count. -/
  | spaced
deriving DecidableEq, Repr

/-- Flags, each with whether it is turned on or off. -/
abbrev PatternFlags := List (PatternFlag × Bool)

/-- Whether flags turn one on or off; none if they do not mention it. -/
def PatternFlags.find? (flags : PatternFlags) (flag : PatternFlag) : Option Bool :=
  (List.find? (fun setting => setting.1 = flag) flags).map Prod.snd

/-- A character as a pattern names it. -/
structure PatternLiteral where
  char : Char
  /-- Whether it is named by the number of a byte. -/
  isByte : Bool := false
deriving DecidableEq, Repr

/-- A set of characters. -/
inductive CharacterSet where
  /-- No characters. -/
  | empty
  | literal (l : PatternLiteral)
  /-- All characters between two. -/
  | range (first last : PatternLiteral)
  /-- A set with a name, or all other characters. -/
  | named (negated : Bool)
  /-- The digits, the white space or the characters of words, or all other characters. -/
  | shorthand (negated : Bool)
  /-- The characters of two or more sets. -/
  | union (sets : List CharacterSet)
  /-- A set in brackets, or all other characters. -/
  | bracketed (negated : Bool) (set : CharacterSet)
  /-- What an operator makes of two sets. -/
  | combined (left right : CharacterSet)

/-- A pattern. -/
inductive Pattern where
  | empty
  /-- Flags for what follows. -/
  | setting (given : PatternFlags)
  | literal (l : PatternLiteral)
  /-- Any character. -/
  | point
  /-- The start or the end of a line or of the text. -/
  | edge
  /-- A place with regard to the start and the end of words. -/
  | wordEdge
  /-- One of several characters. -/
  | oneOf (s : CharacterSet)
  | repeated (p : Pattern)
  /-- A pattern in parentheses, with flags of its own. -/
  | group (given : PatternFlags) (p : Pattern)
  /-- Two or more patterns, one behind the other. -/
  | sequence (ps : List Pattern)
  /-- One of two or more patterns. -/
  | choice (ps : List Pattern)

/-! ### Depth -/

namespace CharacterSet

mutual

def depth : CharacterSet → Nat
  | .union sets => depthOfAll sets + 1
  | .bracketed _ set => set.depth + 1
  | .combined left right => max left.depth right.depth + 1
  | _ => 0

def depthOfAll : List CharacterSet → Nat
  | [] => 0
  | set :: sets => max set.depth (depthOfAll sets)

end

end CharacterSet

namespace Pattern

mutual

def depth : Pattern → Nat
  | .oneOf s => s.depth
  | .repeated p => p.depth + 1
  | .group _ p => p.depth + 1
  | .sequence ps => depthOfAll ps + 1
  | .choice ps => depthOfAll ps + 1
  | _ => 0

def depthOfAll : List Pattern → Nat
  | [] => 0
  | p :: ps => max p.depth (depthOfAll ps)

end

end Pattern

/-! ### Getting along without a table -/

/-- The flags that matter for the use of a pattern. -/
structure PatternMode where
  anyCase : Bool := false
  characters : Bool := true
deriving DecidableEq, Repr

namespace PatternMode

def under (m : PatternMode) (flags : PatternFlags) : PatternMode where
  anyCase := (flags.find? .anyCase).getD m.anyCase
  characters := (flags.find? .characters).getD m.characters

/-- Whether a character can be told. The other case of a character stands in a table; a byte that is
no character of its own makes no text. -/
def tellsLiteral (m : PatternMode) (l : PatternLiteral) : Bool :=
  if m.characters then !m.anyCase else !l.isByte || l.char.toNat < 0x80

/-- Whether a character can be told within a set, where a byte is one of the first 128. -/
def tellsMember (m : PatternMode) (l : PatternLiteral) : Bool :=
  if m.characters then !m.anyCase else l.char.toNat < 0x80

mutual

/-- Whether the characters of a set can be told. Among bytes, what is left of a set makes no
text. -/
def tellsSet (m : PatternMode) : CharacterSet → Bool
  | .empty => true
  | .literal l => m.tellsMember l
  | .range first last => m.tellsMember first && m.tellsMember last
  | .named negated => if m.characters then !m.anyCase else !negated
  | .shorthand negated => !m.characters && !negated
  | .union sets => m.tellsSets sets
  | .bracketed negated set => (m.characters || !negated) && m.tellsSet set
  | .combined left right => m.tellsSet left && m.tellsSet right

/-- Whether the characters of several sets can be told. -/
def tellsSets (m : PatternMode) : List CharacterSet → Bool
  | [] => true
  | set :: sets => m.tellsSet set && m.tellsSets sets

end

end PatternMode

namespace Pattern

mutual

/-- The mode behind a pattern that is met in a mode; none if the pattern needs a table. -/
def settle (m : PatternMode) : Pattern → Option PatternMode
  | .empty => some m
  | .setting given => some (m.under given)
  | .literal l => if m.tellsLiteral l then some m else none
  | .point => if m.characters then some m else none
  | .edge => some m
  | .wordEdge => if m.characters then none else some m
  | .oneOf s => if m.tellsSet s then some m else none
  | .repeated p => settle m p
  | .group given p => (settle (m.under given) p).map fun _ => m
  | .sequence ps => settleAll m ps
  | .choice ps => settleAll m ps

def settleAll (m : PatternMode) : List Pattern → Option PatternMode
  | [] => some m
  | p :: ps =>
      match settle m p with
      | none => none
      | some m => settleAll m ps

end

/-- How deep patterns may stand in each other. -/
def depthLimit : Nat := 250

def isUsable (p : Pattern) : Bool := p.depth ≤ depthLimit && (settle {} p).isSome

end Pattern

end Sluice
