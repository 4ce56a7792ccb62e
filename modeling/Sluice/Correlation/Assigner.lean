import Sluice.Correlation.Template
import Sluice.Message

/-! # Correlation ids

An assigner renders its pattern against the texts of all bound values and sets the result as the
correlation id of a message. Entries of maps are known to the pattern under dotted names. Where two
values have one dotted name, the one bound under the later key in key order stays.
-/

namespace Sluice

/-- The texts of all bound values, those inside maps under dotted names. -/
def Context.model (context : Context) : Keyed String :=
  Keyed.ofList (context.entries.flatMap (fun entry => entry.2.flatten entry.1))

/-- A way to check patterns and to render them. -/
structure Renderer where
  /-- Check a pattern once, when it is configured. -/
  validate : String → Except TemplateError Unit
  /-- Render a pattern against the texts of a model. -/
  render : String → Keyed String → Except TemplateError String

def Renderer.placeholder : Renderer where
  validate pattern := (Template.parse pattern).map (fun _ => ())
  render pattern model :=
    match Template.parse pattern with
    | .error e => .error e
    | .ok t => t.render model

/-- Why a message got no correlation id. -/
inductive CorrelationError where
  /-- The pattern could not be rendered. -/
  | render (cause : TemplateError)
  /-- The rendered id was refused. -/
  | apply (id : String) (cause : MessageError)
deriving DecidableEq, Repr

/-- The words for the kind of a correlation error and of its cause. -/
def CorrelationError.kind : CorrelationError → String
  | .render cause => "Render." ++ cause.kind
  | .apply _ cause => "Apply." ++ cause.kind

def CorrelationError.message : CorrelationError → String
  | .render cause => "Failed to render correlation id: " ++ cause.message
  | .apply id cause =>
      "Failed to set correlation id '" ++ id ++ "' on message: " ++ cause.message

/-- Sets correlation ids from an optional pattern. -/
structure Assigner where
  /-- The pattern; without one, messages are left as they are. -/
  pattern : Option String
  /-- How the pattern is rendered. -/
  renderer : Renderer

namespace Assigner

/-- The assigner that leaves messages as they are. -/
def disabled : Assigner := ⟨none, Renderer.placeholder⟩

/-- The assigner of a pattern that the renderer accepts. -/
def withRenderer (pattern : Option String) (renderer : Renderer) :
    Except TemplateError Assigner :=
  match pattern with
  | none => .ok ⟨none, renderer⟩
  | some p => (renderer.validate p).map (fun _ => ⟨some p, renderer⟩)

/-- The assigner of a template with placeholders. -/
def new (pattern : Option String) : Except TemplateError Assigner :=
  withRenderer pattern Renderer.placeholder

/-- Set the correlation id of a message from the values of a context. -/
def assign (a : Assigner) (m : Message) (context : Context) : Except CorrelationError Message :=
  match a.pattern with
  | none => .ok m
  | some pattern =>
      match a.renderer.render pattern context.model with
      | .error cause => .error (.render cause)
      | .ok id =>
          match m.correlate id with
          | .error cause => .error (.apply id cause)
          | .ok assigned => .ok assigned

end Assigner

end Sluice
