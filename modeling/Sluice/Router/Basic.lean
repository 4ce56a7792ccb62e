import Sluice.Admission
import Sluice.Correlation.Assigner
import Sluice.Resources.Lifecycle
import Sluice.Text.Span

/-! # Routers

A router publishes one configured value per call: it encodes the value, sets the correlation id,
waits until the destination can take the message, and sends it. Each call holds the lock of the
router's station from its first look at the resources to its return, so messages reach the
destination in the order of the calls. Closing shuts the station down before it asks for the lock,
so it waits for no message that is held back.
-/

namespace Sluice

/-- Why a router could not do what it was asked to. -/
inductive RouterError where
  | configuration (cause : ConfigurationError)
  /-- The value could not be encoded. -/
  | encoding (cause : EncodingError)
  /-- The correlation id could not be set. -/
  | correlation (cause : CorrelationError)
  /-- The depth of the destination stayed at or above the mark. -/
  | backpressureTimeout (destination : String) (highWaterMark : Int32) (timeout depth : Nat)
  /-- The depth of the destination stayed at or above the mark while the clock stood still, which it
  does for no router with settings that `Config.validate` accepts. -/
  | stalled (destination : String) (depth : Nat)
  /-- The depth of the destination could not be looked at. -/
  | admissionCheck (destination : String) (cause : BrokerError)
  /-- The message could not be sent. -/
  | publish (destination : String) (cause : BrokerError)
  /-- There are no resources to publish with. -/
  | notReady (state : LifecycleState)
deriving DecidableEq

namespace RouterError

/-- The words for the kind of a router error and of its cause. -/
def kind : RouterError → String
  | .configuration cause => cause.kind
  | .encoding cause => "Encoding." ++ cause.kind
  | .correlation cause => "Correlation." ++ cause.kind
  | .backpressureTimeout _ _ _ _ => "BackpressureTimeout"
  | .stalled _ _ => "Stalled"
  | .admissionCheck _ cause => "AdmissionCheck." ++ cause.kind
  | .publish _ cause => "Publish." ++ cause.kind
  | .notReady _ => "NotReady"

def message : RouterError → String
  | .configuration cause => cause.message
  | .encoding cause => cause.message
  | .correlation cause => cause.message
  | .backpressureTimeout destination highWaterMark timeout depth =>
      "Failed to route message to '" ++ destination ++ "'. Timed out (" ++ Text.span timeout ++
        ") waiting for queue length to drop below High Water Mark (" ++
        toString highWaterMark.toInt ++ "), last depth " ++ toString depth ++
        ". Consider increasing the High Water Mark timeout or the High Water Mark"
  | .stalled destination depth =>
      "Failed to route message to '" ++ destination ++
        "'. The clock stood still while the queue length was waited for, last depth " ++
        toString depth
  | .admissionCheck destination cause =>
      "Failed to inspect depth of '" ++ destination ++ "': " ++ cause.message
  | .publish destination cause =>
      "Failed to send message to '" ++ destination ++ "': " ++ cause.message
  | .notReady state => "Router is not ready to publish (state: " ++ state.display ++ ")"

/-- Whether the destination was too full for too long. -/
def isBackpressure : RouterError → Bool
  | .backpressureTimeout _ _ _ _ => true
  | .stalled _ _ => true
  | _ => false

/-- Whether the broker failed while a message was on its way. -/
def isTransport : RouterError → Bool
  | .admissionCheck _ _ => true
  | .publish _ _ => true
  | _ => false

end RouterError

/-- A router: its configuration and the parts that were chosen by it. -/
structure Router where
  config : Config
  /-- The key of the published value. -/
  valueKey : String
  /-- The directory name of the destination. -/
  destinationName : String
  encoder : Encoder
  assigner : Assigner

namespace Router

def new (config : Config) : Except ConfigurationError Router :=
  match config.validate with
  | .error e => .error e
  | .ok _ =>
      match Assigner.new config.correlationPattern with
      | .error cause => .error (.template cause)
      | .ok assigner =>
          .ok {
            config
            valueKey := config.valueKey.getD ""
            destinationName := config.destinationName.getD ""
            encoder := config.messageType.encoder
            assigner }

def withEncoder (r : Router) (encoder : Encoder) : Router := { r with encoder }

def withRenderer (r : Router) (renderer : Renderer) : Except ConfigurationError Router :=
  match Assigner.withRenderer r.config.correlationPattern renderer with
  | .error cause => .error (.template cause)
  | .ok assigner => .ok { r with assigner }

/-- Whether a value bound to `key` concerns the router: the key begins with that of the published
value. -/
def consumes (r : Router) (key : String) : Bool := r.valueKey.toList.isPrefixOf key.toList

def start (r : Router) (files : Files) (defaults : Properties) : Work (Except RouterError Unit) :=
  Work.locked do
    match ← Manager.start r.config files defaults with
    | .ok _ => return .ok ()
    | .error e => return .error (.configuration e)

/-- The message that carries the value of a context. -/
def prepare (r : Router) (values : Context) : Except RouterError Message :=
  match r.encoder r.valueKey values with
  | .error cause => .error (.encoding cause)
  | .ok body =>
      match r.assigner.assign { body } values with
      | .error cause => .error (.correlation cause)
      | .ok m => .ok m

/-- Send a message and, on a transacted session, commit; if either fails, roll back. -/
def deliver (held : Resources) (m : Message) : Work (Except BrokerError Unit) := do
  let sent ← Work.call (.send held.producer m)
  let outcome ←
    match sent with
    | .ok _ => if held.transacted then Work.call (.commit held.session) else pure (.ok ())
    | .error cause => pure (.error cause)
  match outcome with
  | .ok _ => return .ok ()
  | .error cause =>
      if held.transacted then
        Manager.tryCall (.rollback held.session)
      return .error cause

/-- Publish with the resources that are held. -/
def publishWith (r : Router) (held : Resources) (values : Context) :
    Work (Except RouterError Unit) := do
  match r.prepare values with
  | .error e => return .error e
  | .ok m =>
      match ← r.config.admission.awaitCapacity held.session held.destination with
      | .error (.timedOut depth) =>
          return .error (.backpressureTimeout held.destination.name
            r.config.admission.highWaterMark r.config.admission.timeout depth)
      | .error (.stalled depth) => return .error (.stalled held.destination.name depth)
      | .error (.inspection cause) => return .error (.admissionCheck held.destination.name cause)
      | .ok _ =>
          match ← deliver held m with
          | .ok _ => return .ok ()
          | .error cause => return .error (.publish held.destination.name cause)

def publish (r : Router) (values : Context) : Work (Except RouterError Unit) :=
  Work.locked do
    let m ← Work.manager
    match m.resources with
    | none => return .error (.notReady m.state)
    | some held => r.publishWith held values

/-- Publish if the router is configured for a phase; return whether a message was sent. -/
def visit (r : Router) (phase : ExecutionPhase) (values : Context) :
    Work (Except RouterError Bool) := do
  if r.config.executionPhase ≠ phase then
    return .ok false
  match ← r.publish values with
  | .ok _ => return .ok true
  | .error e => return .error e

def state : Work LifecycleState :=
  Work.locked do return (← Work.manager).state

/-- Let everybody through who waits or will wait, then release the broker resources. -/
def close : Work Unit := do
  Work.shutDown
  Work.interrupt
  Work.locked Manager.close

end Router

end Sluice
