import Sluice.Keyed
import Sluice.Text.Alphanumeric
import Sluice.Text.Blank
import Sluice.Text.Pieces

/-! # Environments

A program finds settings in its environment, which maps names to texts. Before it looks, an
environment file is loaded: one setting a line, a name, an equals sign, a value. Settings that are
there already stay. The first faulty line ends the loading; what was set before it stays set. A
value that no setting can have leaves no environment at all.

A value can be quoted: between single quotes every character stands for itself, between double
quotes a backslash escapes and a dollar sign refers to a setting. Outside of quotes the value ends
at a space or tab, and only a comment may follow.
-/

namespace Sluice

abbrev Environment := Keyed String

namespace Environment

def startsName (c : Char) : Bool := c.isAlpha || c = '_'

def inName (c : Char) : Bool := c.isAlphanum || c = '_' || c = '.'

/-- Split a name from the front of a line. -/
def splitName (line : List Char) : Option (String × List Char) :=
  match line with
  | [] => none
  | c :: _ =>
      if startsName c then some (String.ofList (line.takeWhile inName), line.dropWhile inName)
      else none

/-- What the characters of a value stand for at some place. -/
inductive ValueMode where
  /-- Outside of quotes. -/
  | plain
  /-- Between single quotes. -/
  | single
  /-- Between double quotes. -/
  | double
  /-- Behind the value. -/
  | behind
deriving DecidableEq, Repr

/-- How far a reference to a setting has been read. -/
inductive Reference where
  /-- None is being read. -/
  | none
  /-- A name behind a dollar sign, its last character first. -/
  | bare (name : List Char)
  /-- A name behind a dollar sign and a brace, its last character first. -/
  | braced (name : List Char)
deriving DecidableEq, Repr

/-- The reading of a value, at some place. -/
structure ValueState where
  mode : ValueMode := .plain
  /-- Whether the next character is escaped. -/
  escaped : Bool := false
  reference : Reference := .none
  /-- The value so far, its last character first. -/
  output : List Char := []
deriving DecidableEq, Repr

namespace ValueState

def push (s : ValueState) (cs : List Char) : ValueState :=
  { s with output := cs.reverse ++ s.output }

/-- Add what a reference stands for, and end it. -/
def resolve (s : ValueState) (settings : String → Option String) (name : List Char) : ValueState :=
  { s.push ((settings (String.ofList name.reverse)).getD "").toList with reference := .none }

def readEscaped (s : ValueState) (c : Char) : Option ValueState :=
  let s := { s with escaped := false }
  if c ∈ ['\\', '\'', '"', '$', ' '] then some (s.push [c])
  else if c = 'n' then some (s.push ['\n'])
  else none

/-- Read a character of a reference. The one that ends a bare name stands for itself, unless it
begins another reference. -/
def readReference (s : ValueState) (settings : String → Option String) (c : Char) : ValueState :=
  match s.reference with
  | .none => s
  | .bare name =>
      if Text.isAlphanumeric c then { s with reference := .bare (c :: name) }
      else if c = '\x7b' && name.isEmpty then { s with reference := .braced [] }
      else
        let s := s.resolve settings name
        if c = '$' then { s with reference := .bare [] } else s.push [c]
  | .braced name =>
      if c = '\x7d' then s.resolve settings name
      else { s with reference := .braced (c :: name) }

/-- Read a character that is neither escaped nor part of a reference. -/
def readPlain (s : ValueState) (c : Char) : ValueState :=
  if c = '$' then { s with reference := .bare [] }
  else if s.mode = .double then
    if c = '"' then { s with mode := .plain }
    else if c = '\\' then { s with escaped := true }
    else s.push [c]
  else if c = '\'' then { s with mode := .single }
  else if c = '"' then { s with mode := .double }
  else if c = '\\' then { s with escaped := true }
  else if c = ' ' || c = '\t' then { s with mode := .behind }
  else s.push [c]

end ValueState

/-- Read the characters of a value; none if they are faulty. -/
def readValue (settings : String → Option String) : ValueState → List Char → Option String
  | s, [] =>
      if s.mode = .single || s.mode = .double then none
      else
        match s.reference with
        | .braced _ => none
        | .bare name => some (String.ofList (s.resolve settings name).output.reverse)
        | .none => some (String.ofList s.output.reverse)
  | s, c :: rest =>
      if s.mode = .behind then
        if c = ' ' || c = '\t' then readValue settings s rest
        else if c = '#' then some (String.ofList s.output.reverse)
        else none
      else if s.escaped then
        match s.readEscaped c with
        | none => none
        | some s => readValue settings s rest
      else if s.mode = .single then
        if c = '\'' then readValue settings { s with mode := .plain } rest
        else readValue settings (s.push [c]) rest
      else if s.reference ≠ .none then readValue settings (s.readReference settings c) rest
      else readValue settings (s.readPlain c) rest

/-- What a line of an environment file says. -/
inductive FileLine where
  | skipped
  | setting (name value : String)
  | faulty
deriving DecidableEq, Repr

/-- Whether nothing or a comment is left of a line. -/
def isRemark : List Char → Bool
  | [] => true
  | c :: _ => c = '#'

/-- Read what stands behind the equals sign of a line. -/
def readSetting (settings : String → Option String) (name : String) (rest : List Char) : FileLine :=
  let rest := Text.dropBlank rest
  if isRemark rest then .setting name ""
  else
    match readValue settings {} rest with
    | none => .faulty
    | some value => .setting name value

/-- Read a line. The word `export` may stand in front of a name, and is a name itself where an
equals sign follows. -/
def readFileLine (settings : String → Option String) (line : List Char) : FileLine :=
  let line := Text.trimChars line
  if isRemark line then .skipped
  else
    match splitName line with
    | none => .faulty
    | some (name, rest) =>
        match Text.dropBlank rest with
        | '=' :: rest => readSetting settings name rest
        | rest =>
            if name = "export" then
              match splitName rest with
              | none => .faulty
              | some (name, rest) =>
                  match Text.dropBlank rest with
                  | '=' :: rest => readSetting settings name rest
                  | _ => .faulty
            else .faulty

/-- Whether a setting can have a value: the system ends a value at the first null character. -/
def canHold (value : String) : Bool := !value.toList.contains '\x00'

/-- Load lines of an environment file. A reference means what is set in the environment, or else
what an earlier line of the file says. There is no environment if a setting cannot have its
value. -/
def loadLines (file : Environment) (env : Environment) : List (List Char) → Option Environment
  | [] => some env
  | line :: rest =>
      match readFileLine (fun name => (env.get? name).or (file.get? name)) line with
      | .skipped => loadLines file env rest
      | .faulty => some env
      | .setting name value =>
          if env.contains name then loadLines (file.insert name value) env rest
          else if canHold value then loadLines (file.insert name value) (env.insert name value) rest
          else none

def load (env : Environment) (text : String) : Option Environment :=
  loadLines Keyed.empty env (Text.splitLines text.toList)

end Environment

end Sluice
