import Sluice.Environment
import Sluice.Pattern.Reader
import Sluice.Text.LetterCase
import Sluice.Text.Numeral

/-! # Log levels and filters

A filter is a list of directives between commas: a level for everything, or a target with a level.
What a filter lets through at most is the most verbose level of its directives. `Logger.setup` picks
a filter by a level that is asked for or by the environment; only the first filter is put to use.
-/

namespace Sluice

/-- How much is logged, each level including those before it. -/
inductive LogLevel where
  | off
  | error
  | warn
  | info
  | debug
  | trace
deriving DecidableEq, Repr, Inhabited

namespace LogLevel

def name : LogLevel → String
  | .off => "off"
  | .error => "error"
  | .warn => "warn"
  | .info => "info"
  | .debug => "debug"
  | .trace => "trace"

def all : List LogLevel := [.off, .error, .warn, .info, .debug, .trace]

def rank : LogLevel → Nat
  | .off => 0
  | .error => 1
  | .warn => 2
  | .info => 3
  | .debug => 4
  | .trace => 5

def max (a b : LogLevel) : LogLevel := if a.rank < b.rank then b else a

/-- The level of a word: its name in any letter case, or its place as a number. -/
def ofWord? (word : String) : Option LogLevel :=
  match Text.readNat (Nat.pow 2 64 - 1) word with
  | .ok n => all[n]?
  | .error _ => all.find? fun level => level.name = Text.lower word

end LogLevel

namespace LogFilter

/-- The level behind an equals sign; nothing there means everything. -/
def levelBehind (word : List Char) : Option LogLevel :=
  if word.isEmpty then some .trace else LogLevel.ofWord? (String.ofList word)

/-- Whether a directive can begin with a character. -/
def startsDirective (c : Char) : Bool :=
  c = '-' || c = ':' || c = '_' || Text.isAlphanumeric c

/-- What follows a span behind its opening bracket. -/
inductive SpanTail where
  /-- The span asks for no field. -/
  | plain (rest : List Char)
  /-- The span asks for a field, which is written between braces. -/
  | withField (field rest : List Char)

/-- The characters behind a span, from its field on if it has one. A field in braces ends the
span. -/
def spanTail? (cs : List Char) : Option SpanTail :=
  match cs.dropWhile fun c => c ≠ ']' && c ≠ '\x7b' with
  | ']' :: rest => some (.plain rest)
  | '\x7b' :: rest =>
      let field := rest.takeWhile (· ≠ '\x7d')
      match rest.dropWhile (· ≠ '\x7d') with
      | '\x7d' :: ']' :: _ => if field.isEmpty then none else some (.withField field rest)
      | _ => none
  | _ => none

/-- The value that a field asks for: what stands behind the first equals sign, up to the second. -/
def fieldValue? (field : List Char) : Option (List Char) :=
  match field.dropWhile (· ≠ '=') with
  | [] => none
  | _ :: value => some (value.takeWhile (· ≠ '='))

/-- Whether a value can be asked for: it is a number or a pattern of use. -/
def isValue (value : List Char) : Bool :=
  Text.isReal value || (Pattern.ofText? value).any Pattern.isUsable

/-- The level of a directive; none if it is faulty. A word that is no level is a target, of which
everything is let through; a span that asks for the value of a field may be met at any level. White
space at either end counts: what it stands behind is moved by as many bytes. -/
def directiveLevel (cs : List Char) : Option LogLevel :=
  let shown := Text.trimChars cs
  let moved (tail : List Char) := Text.dropBytes (Text.byteCount shown - Text.byteCount tail) cs
  let levelAt (word : List Char) := levelBehind (moved word)
  let levelBehindSpan (rest : List Char) :=
    match rest with
    | [] => some LogLevel.trace
    | '=' :: word => levelAt word
    | _ => none
  let levelOfSpan (behindBracket : List Char) :=
    match spanTail? behindBracket with
    | none => none
    | some (.plain rest) => levelBehindSpan rest
    | some (.withField field rest) =>
        let asked := fieldValue? (Text.takeBytes (Text.byteCount field) (moved rest))
        if asked.all isValue then
          (levelBehindSpan (rest.drop (field.length + 2))).map fun level =>
            if asked.isSome then .trace else level
        else none
  match shown with
  | [] => none
  | '[' :: rest => levelOfSpan rest
  | c :: _ =>
      if !startsDirective c then none
      else
        match shown.dropWhile fun c => c ≠ '=' && c ≠ '[' with
        | '=' :: word => levelAt word
        | '[' :: rest => levelOfSpan rest
        | _ => some ((LogLevel.ofWord? (String.ofList cs)).getD .trace)

def directives (text : String) : List (List Char) :=
  (Text.pieces (· = ',') text.toList).filter fun piece => !piece.isEmpty

def mostVerbose (levels : List LogLevel) : LogLevel := levels.foldl LogLevel.max .off

/-- What a filter text lets through, when faulty directives are passed over; errors if nothing is
left. -/
def parseLossy (text : String) : LogLevel :=
  match (directives text).filterMap directiveLevel with
  | [] => .error
  | levels => mostVerbose levels

/-- What a filter text lets through; none if a directive is faulty. -/
def parse? (text : String) : Option LogLevel :=
  ((directives text).mapM directiveLevel).map mostVerbose

end LogFilter

/-- The logging of a program. -/
structure Logger where
  /-- What the filter in use lets through, if there is one. -/
  installed : Option LogLevel := none
  /-- The most verbose level that is enabled anywhere. -/
  enabled : LogLevel := .off
deriving DecidableEq, Repr

namespace Logger

def disableVariable : String := "RUST_LOG_DISABLE"

def filterVariable : String := "RUST_LOG"

/-- What the filter lets through that is to be set up; none if there is to be none. -/
def chooseFilter (env : Environment) (level : Option String) : Option LogLevel :=
  if env.contains disableVariable then none
  else
    match level with
    | some text => some (LogFilter.parseLossy text)
    | none => (env.get? filterVariable).map fun text => (LogFilter.parse? text).getD .info

/-- Put a filter to use, unless there is one; its level is enabled even where it comes too late. -/
def install (l : Logger) (filter : LogLevel) : Logger :=
  match l.installed with
  | none => { installed := some filter, enabled := filter }
  | some first => { l with enabled := first.max filter }

/-- Set logging up for a level that is asked for, or by the environment. -/
def setup (l : Logger) (env : Environment) (level : Option String) : Logger :=
  match chooseFilter env level with
  | none => l
  | some filter => l.install filter

end Logger

end Sluice
