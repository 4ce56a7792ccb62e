import Sluice.NameError
import Sluice.Text.Blank
import Sluice.Text.LetterCase
import Sluice.Value

/-! # Messages

A message has a body of one of three forms and the headers that a broker acts on: correlation id,
priority, time to live and delivery mode. The producer that sends a message stamps its own delivery
settings over the headers; the correlation id belongs to the message.
-/

namespace Sluice

/-- Whether a broker keeps a message on stable storage before it acknowledges it. -/
inductive DeliveryMode where
  | persistent
  | nonPersistent
deriving DecidableEq, Repr, Inhabited

namespace DeliveryMode

def name : DeliveryMode → String
  | .persistent => "persistent"
  | .nonPersistent => "non-persistent"

/-- Read a name in any letter case, with white space around it. -/
def parse (s : String) : Except NameError DeliveryMode :=
  let shown := Text.lower (Text.trim s)
  if shown = "persistent" then .ok .persistent
  else if shown = "non-persistent" ∨ shown = "non_persistent" then .ok .nonPersistent
  else .error (.deliveryMode shown)

end DeliveryMode

def maxPriority : UInt8 := 9

/-- The greatest length of a correlation id, in bytes. -/
def maxCorrelationIdLength : Nat := 4096

/-- What a producer stamps on every message that it sends. -/
structure DeliverySettings where
  /-- From 0, the lowest, to 9. -/
  priority : UInt8 := 4
  /-- Milliseconds until the message expires; zero for never. A clock whose readings are bounded
  would fail where the time of expiry is beyond them; that is left out. -/
  timeToLive : Nat := 0
  /-- Whether the message is kept on stable storage. -/
  deliveryMode : DeliveryMode := .persistent
deriving DecidableEq, Repr, Inhabited

/-- A typed entry of a map message. -/
inductive Field where
  | string (s : String)
  | int (n : Int32)
  | long (n : Int64)
  | double (x : Double)
  | float (x : Single)
  | boolean (b : Bool)
  | short (n : Int16)
  | byte (n : Int8)
  | char (c : Char)
  | bytes (data : Bytes)
deriving DecidableEq

abbrev MapBody := Keyed Field

/-- The body of a message. -/
inductive Body where
  | text (s : String)
  | map (fields : MapBody)
  | object (data : Bytes)
deriving DecidableEq

/-- A message on its way to a destination. -/
structure Message where
  body : Body
  correlationId : Option String := none
  priority : UInt8 := 4
  /-- Milliseconds until the message expires; zero for never. -/
  timeToLive : Nat := 0
  deliveryMode : DeliveryMode := .persistent
deriving DecidableEq

/-- Why a correlation id was refused. -/
inductive MessageError where
  /-- The id has more bytes than `maxCorrelationIdLength`. -/
  | correlationIdTooLong (length : Nat)
  /-- The id contains the NUL character. -/
  | correlationIdNul
deriving DecidableEq, Repr

def MessageError.kind : MessageError → String
  | .correlationIdTooLong _ => "CorrelationIdTooLong"
  | .correlationIdNul => "CorrelationIdNul"

def MessageError.message : MessageError → String
  | .correlationIdTooLong length =>
      "correlation id is " ++ toString length ++ " bytes long, limit is " ++
        toString maxCorrelationIdLength
  | .correlationIdNul => "correlation id contains a NUL character"

namespace Message

/-- Whether a correlation id can be set; its length is looked at first. -/
def checkCorrelationId (id : String) : Except MessageError Unit :=
  if id.utf8ByteSize > maxCorrelationIdLength then .error (.correlationIdTooLong id.utf8ByteSize)
  else if '\x00' ∈ id.toList then .error .correlationIdNul
  else .ok ()

def correlate (m : Message) (id : String) : Except MessageError Message :=
  (checkCorrelationId id).map (fun _ => { m with correlationId := some id })

/-- Put the settings of a producer over the headers. -/
def stamp (m : Message) (settings : DeliverySettings) : Message :=
  { m with
    priority := settings.priority
    timeToLive := settings.timeToLive
    deliveryMode := settings.deliveryMode }

/-- Whether the message is kept on stable storage. -/
def isPersistent (m : Message) : Bool := m.deliveryMode = .persistent

end Message

end Sluice
