import Sluice.Keyed
import Sluice.Text.Blank

/-! # Correlation templates

A template is text with placeholders: a dollar sign and an opening brace, a name, a closing brace.
Everything else is literal, a dollar sign before any other character included. White space around a
name is dropped. `Template.parse` reports the leftmost placeholder that is never closed or has no
name; `Template.render` puts the value of each name in its place, as it stands.
-/

namespace Sluice

/-- A part of a template. -/
inductive Segment where
  /-- Text that is copied. -/
  | literal (text : String)
  /-- The name of a value. -/
  | placeholder (name : String)
deriving DecidableEq, Repr

/-- A parsed template. -/
structure Template where
  /-- The text that was parsed. -/
  pattern : String
  /-- Its parts from left to right. -/
  segments : List Segment
deriving DecidableEq, Repr

/-- Why a template cannot be parsed or rendered. -/
inductive TemplateError where
  /-- A placeholder is never closed. -/
  | unterminated (pattern : String)
  /-- A placeholder has no name. -/
  | emptyPlaceholder (pattern : String)
  /-- There is no value for a name. -/
  | missingValue (name pattern : String)
deriving DecidableEq, Repr

def TemplateError.kind : TemplateError → String
  | .unterminated _ => "Unterminated"
  | .emptyPlaceholder _ => "EmptyPlaceholder"
  | .missingValue _ _ => "MissingValue"

def TemplateError.message : TemplateError → String
  | .unterminated pattern => "Unterminated placeholder in template '" ++ pattern ++ "'"
  | .emptyPlaceholder pattern => "Empty placeholder in template '" ++ pattern ++ "'"
  | .missingValue name pattern =>
      "No value for '" ++ name ++ "' while rendering template '" ++ pattern ++ "'"

namespace Template

/-- What is wrong with a placeholder. -/
inductive Fault where
  | unterminated
  | empty
deriving DecidableEq, Repr

/-- What stands before the character to be read, each part with its last character first. -/
inductive Pending where
  /-- Literal text. -/
  | literal (text : List Char)
  /-- Literal text and, behind it, the beginning of a placeholder. -/
  | placeholder (text name : List Char)

/-- A literal in front of other segments, unless it is empty. -/
def literalThen (text : List Char) (segments : List Segment) : List Segment :=
  if text.isEmpty then segments else .literal (String.ofList text.reverse) :: segments

/-- Split characters into segments, given what stands before them. -/
def scan : Pending → List Char → Except Fault (List Segment)
  | .literal text, [] => .ok (literalThen text [])
  | .literal text, '$' :: '{' :: rest => scan (.placeholder text []) rest
  | .literal text, c :: rest => scan (.literal (c :: text)) rest
  | .placeholder _ _, [] => .error .unterminated
  | .placeholder text name, c :: rest =>
      if c = '}' then
        match Text.trimChars name.reverse with
        | [] => .error .empty
        | shown =>
            (scan (.literal []) rest).map fun segments =>
              literalThen text (.placeholder (String.ofList shown) :: segments)
      else scan (.placeholder text (c :: name)) rest

def parse (pattern : String) : Except TemplateError Template :=
  match scan (.literal []) pattern.toList with
  | .ok segments => .ok ⟨pattern, segments⟩
  | .error .unterminated => .error (.unterminated pattern)
  | .error .empty => .error (.emptyPlaceholder pattern)

/-- Put the values of the model in the places of their names. -/
def renderSegments (pattern : String) (model : Keyed String) :
    List Segment → Except TemplateError String
  | [] => .ok ""
  | .literal text :: rest => (renderSegments pattern model rest).map (text ++ ·)
  | .placeholder name :: rest =>
      match model.get? name with
      | none => .error (.missingValue name pattern)
      | some value => (renderSegments pattern model rest).map (value ++ ·)

def render (t : Template) (model : Keyed String) : Except TemplateError String :=
  renderSegments t.pattern model t.segments

end Template

end Sluice
