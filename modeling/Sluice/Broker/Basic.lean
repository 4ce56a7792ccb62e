import Sluice.NameError
import Sluice.Text.Blank
import Sluice.Text.LetterCase
import Sluice.Text.Outline

/-! # Brokers: destinations, credentials and errors

What every kind of broker has in common: named destinations of two kinds, credentials, acknowledge
modes, the kinds of handles that a client holds, and the reasons for which an operation fails.
-/

namespace Sluice

/-- Whether the messages of a destination wait in line or are published to whoever listens. -/
inductive DestinationKind where
  | queue
  | topic
deriving DecidableEq, Repr, Inhabited

/-- A named destination. -/
structure Destination where
  name : String
  kind : DestinationKind
deriving DecidableEq, Repr, Inhabited

namespace Destination

def queue (name : String) : Destination := ⟨name, .queue⟩

def topic (name : String) : Destination := ⟨name, .topic⟩

def isQueue (d : Destination) : Bool := d.kind = .queue

end Destination

/-- What a client presents to be let in. -/
structure Credentials where
  principal : String
  credential : String
deriving DecidableEq, Repr

def Credentials.outline (c : Credentials) : Text.Outline :=
  .record "Credentials" [("principal", .quoted c.principal), ("credential", .quoted "***")]

/-- How the messages of a session are acknowledged. -/
inductive AcknowledgeMode where
  | auto
  | client
  | dupsOk
deriving DecidableEq, Repr, Inhabited

namespace AcknowledgeMode

def name : AcknowledgeMode → String
  | .auto => "AUTO_ACKNOWLEDGE"
  | .client => "CLIENT_ACKNOWLEDGE"
  | .dupsOk => "DUPS_OK_ACKNOWLEDGE"

/-- Read a long or short name in any letter case, with white space around it. -/
def parse (s : String) : Except NameError AcknowledgeMode :=
  let shown := Text.upper (Text.trim s)
  if shown = "AUTO_ACKNOWLEDGE" ∨ shown = "AUTO" then .ok .auto
  else if shown = "CLIENT_ACKNOWLEDGE" ∨ shown = "CLIENT" then .ok .client
  else if shown = "DUPS_OK_ACKNOWLEDGE" ∨ shown = "DUPS_OK" ∨ shown = "DUPS-OK" then .ok .dupsOk
  else .error (.acknowledgeMode shown)

/-- Read a name; one that stands for no mode stands for `auto`. -/
def parseLenient (s : String) : AcknowledgeMode :=
  match parse s with
  | .ok mode => mode
  | .error _ => .auto

end AcknowledgeMode

/-- The kinds of handles that a broker gives out. -/
inductive HandleKind where
  | connection
  | session
  | producer
  | browser
deriving DecidableEq, Repr

def HandleKind.label : HandleKind → String
  | .connection => "connection"
  | .session => "session"
  | .producer => "producer"
  | .browser => "browser"

/-- The operations of a broker that can be made to fail once. -/
inductive FaultPoint where
  | createConnection
  | createSession
  | createProducer
  | startConnection
  | applySettings
  | send
  | browse
  | commit
  | stopConnection
  | closeProducer
  | closeSession
  | closeConnection
deriving DecidableEq, Repr

def FaultPoint.name : FaultPoint → String
  | .createConnection => "CreateConnection"
  | .createSession => "CreateSession"
  | .createProducer => "CreateProducer"
  | .startConnection => "StartConnection"
  | .applySettings => "ApplySettings"
  | .send => "Send"
  | .browse => "Browse"
  | .commit => "Commit"
  | .stopConnection => "StopConnection"
  | .closeProducer => "CloseProducer"
  | .closeSession => "CloseSession"
  | .closeConnection => "CloseConnection"

def FaultPoint.all : List FaultPoint :=
  [.createConnection, .createSession, .createProducer, .startConnection, .applySettings, .send,
    .browse, .commit, .stopConnection, .closeProducer, .closeSession, .closeConnection]

/-- Operations that some broker does not offer. -/
inductive Unsupported where
  /-- A commit on a session that is not transacted. -/
  | plainCommit
  /-- A rollback on a session that is not transacted. -/
  | plainRollback
  /-- A transacted session over a bridge. -/
  | bridgedTransaction
  /-- A commit over a bridge. -/
  | bridgedCommit
  /-- A rollback over a bridge. -/
  | bridgedRollback
deriving DecidableEq, Repr

def Unsupported.message : Unsupported → String
  | .plainCommit => "commit on a non-transacted session"
  | .plainRollback => "rollback on a non-transacted session"
  | .bridgedTransaction => "transacted sessions are not available over MQTT"
  | .bridgedCommit => "commit over MQTT"
  | .bridgedRollback => "rollback over MQTT"

/-- Why a name is no topic that can be published to. -/
inductive TopicFault where
  | length
  | character
deriving DecidableEq, Repr

def TopicFault.message : TopicFault → String
  | .length => "Topic is empty or too long"
  | .character => "Topic contains illegal characters ('#', '+', or null byte)"

/-- Why the transport failed. -/
inductive TransportFault where
  /-- The broker was made to fail at a point. -/
  | injected (point : FaultPoint)
  /-- The call was planned to be reported as failed. -/
  | planned (call : String)
deriving DecidableEq, Repr

def TransportFault.message : TransportFault → String
  | .injected point => "injected fault at " ++ point.name
  | .planned call => "planned fault at " ++ call

/-- Why a broker operation failed. -/
inductive BrokerError where
  /-- The handle was closed before. -/
  | closed (kind : HandleKind)
  /-- The credentials were missing or not the required ones. -/
  | authentication (principal : String)
  /-- The broker does not offer the operation. -/
  | unsupported (feature : Unsupported)
  /-- The name of the destination is not usable. -/
  | invalidDestination (name : String) (fault : TopicFault)
  /-- The transport failed. -/
  | transport (fault : TransportFault)
  /-- The client of a bridge has nobody left to pass its requests to. -/
  | clientGone
  /-- The far end of a bridge was never reached. -/
  | unreachable (reason : String)
deriving DecidableEq, Repr

def BrokerError.kind : BrokerError → String
  | .closed _ => "Closed"
  | .authentication _ => "Authentication"
  | .unsupported _ => "Unsupported"
  | .invalidDestination _ _ => "InvalidDestination"
  | .transport _ => "Transport"
  | .clientGone => "Mqtt"
  | .unreachable _ => "MqttConnection"

def BrokerError.message : BrokerError → String
  | .closed kind => kind.label ++ " is closed"
  | .authentication principal => "Authentication failed for principal '" ++ principal ++ "'"
  | .unsupported feature => "Unsupported operation: " ++ feature.message
  | .invalidDestination name fault => "Invalid destination '" ++ name ++ "': " ++ fault.message
  | .transport fault => "Transport failure: " ++ fault.message
  | .clientGone =>
      "MQTT client operation failed: Failed to send mqtt requests to eventloop"
  | .unreachable reason => "MQTT connection failed: " ++ reason

end Sluice
