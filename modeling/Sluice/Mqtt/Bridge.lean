import Sluice.Mqtt.Drive
import Sluice.Mqtt.Topic
import Sluice.Wire.Envelope

/-! # Bridges

A bridge publishes the messages of a router on a foreign broker: each destination is the topic of
its name, each message one envelope. The foreign broker has no queues to inspect and no
transactions. The far end is played by a `Peer`, which answers the first packet, takes whatever
follows, and may vanish for good after so many messages. A message that is too large never gets
through and breaks the line to the far end for good.
-/

namespace Sluice.Mqtt

/-- Whether the far end confirms a message. -/
inductive Quality where
  | atMostOnce
  | atLeastOnce
deriving DecidableEq, Repr

def Quality.ofMode : DeliveryMode → Quality
  | .persistent => .atLeastOnce
  | .nonPersistent => .atMostOnce

def Quality.level : Quality → Nat
  | .atMostOnce => 0
  | .atLeastOnce => 1

/-- What the far end sees. -/
inductive Packet where
  | connect (clientId : String) (login : Option Credentials)
  | publish (topic : String) (quality : Quality) (retain : Bool) (payload : Bytes)
  | disconnect
deriving DecidableEq

/-- How many bytes of a packet follow its kind and its size; only those of messages count. -/
def Packet.extent : Packet → Nat
  | .publish topic quality _ payload =>
      2 + topic.utf8ByteSize + (if quality = .atLeastOnce then 2 else 0) + payload.length
  | _ => 0

/-- How many bytes are too many for a packet. -/
def extentBound : Nat := 10 * 1024

/-- Whether a packet is too large to be sent. -/
def Packet.isTooLarge (p : Packet) : Bool := extentBound ≤ p.extent

/-- How the first packet is answered. -/
inductive Greeting where
  | accepted
  /-- With a code other than zero. -/
  | refused (code : Nat)
  /-- Not at all. -/
  | silent
deriving DecidableEq, Repr

/-- The word for a code with which a connection is refused. -/
def refusalName (code : Nat) : String :=
  if code = 1 then "RefusedProtocolVersion"
  else if code = 2 then "BadClientId"
  else if code = 3 then "ServiceUnavailable"
  else if code = 4 then "BadUserNamePassword"
  else "NotAuthorized"

/-- The far end of a bridge. -/
structure Peer where
  greeting : Greeting := .accepted
  /-- After how many messages it vanishes; none if it does not. -/
  vanishesAfter : Option Nat := none
  /-- Whether the line to it is broken. -/
  isCutOff : Bool := false
  /-- The packets that it has seen, the last one first. -/
  seen : List Packet := []
deriving DecidableEq

namespace Peer

def isPublish : Packet → Bool
  | .publish _ _ _ _ => true
  | _ => false

/-- Whether the far end is out of reach for good. -/
def isGone (p : Peer) : Bool :=
  p.isCutOff || p.vanishesAfter.any (· ≤ (p.seen.filter isPublish).length)

/-- See a packet, unless it is too late. -/
def see (p : Peer) (packet : Packet) : Peer :=
  if p.isGone then p else { p with seen := packet :: p.seen }

/-- The packets that the far end has seen, in order. -/
def received (p : Peer) : List Packet := p.seen.reverse

end Peer

/-- How a client is set up. -/
structure ClientSettings where
  clientId : String := "router"
  credentials : Option Credentials := none
  /-- How long the answer to the first packet is waited for. -/
  connectionTimeout : Nat := 5000
  /-- After how many failures in a row the client gives up. -/
  maxFailures : UInt32 := 5
deriving DecidableEq

/-- What of the credentials goes into the first packet. -/
def ClientSettings.login (s : ClientSettings) : Option Credentials :=
  s.credentials.filter fun c => c.principal ≠ "" || c.credential ≠ ""

/-- A client and the far end of its bridge. -/
structure Bridge where
  settings : ClientSettings := {}
  peer : Peer := {}
  /-- Who carries the requests of the client to the far end. -/
  drive : Drive := .start
  /-- Whether the client was closed. -/
  isClosed : Bool := false
deriving DecidableEq

/-- A publisher to one topic. -/
structure Publisher where
  topic : String
  settings : DeliverySettings := {}
  /-- That of the delivery mode, looked up when the settings were applied. -/
  quality : Quality := Quality.ofMode settings.deliveryMode
deriving DecidableEq

namespace Publisher

def applySettings (p : Publisher) (settings : DeliverySettings) : Publisher :=
  { p with quality := Quality.ofMode settings.deliveryMode, settings }

def packet (p : Publisher) (m : Message) : Packet :=
  .publish p.topic p.quality false (Envelope.ofMessage (m.stamp p.settings)).encode

end Publisher

namespace Bridge

/-- Send the first packet and wait for the answer. -/
def connect (settings : ClientSettings) (peer : Peer) : Except BrokerError Unit × Bridge :=
  let b : Bridge := { settings, peer := peer.see (.connect settings.clientId settings.login) }
  match peer.greeting with
  | .accepted => (.ok (), b)
  | .refused code =>
      (.error (.unreachable ("Connection refused, return code: `" ++ refusalName code ++ "`")),
        b)
  | .silent =>
      (.error (.unreachable
        ("no ConnAck within " ++ toString settings.connectionTimeout ++ "ms")), b)

/-- Let the drive go on after polls. -/
def polled (b : Bridge) (polls : List Poll) : Bridge :=
  { b with drive := b.drive.run b.settings.maxFailures polls }

/-- Wait until the client has given up on a far end that is out of reach. -/
def awaitGivenUp (b : Bridge) : Bridge :=
  if b.peer.isGone then
    b.polled (List.replicate (max 1 b.settings.maxFailures.toNat) .failure)
  else b

/-- Hand a packet over to whoever carries it; nobody does once the drive has ended. What becomes of
the packet on its way is not known yet. -/
def request (b : Bridge) (packet : Packet) (poll : Poll) : Except BrokerError Unit × Bridge :=
  if b.drive.isStopped then (.error .clientGone, b)
  else if b.peer.isGone then (.ok (), b)
  else if packet.isTooLarge then (.ok (), { b with peer := { b.peer with isCutOff := true } })
  else (.ok (), { b with peer := b.peer.see packet }.polled [poll])

/-- Check that the client was not closed. -/
def ensureOpen (b : Bridge) : Except BrokerError Unit :=
  if b.isClosed then .error (.closed .connection) else .ok ()

def openSession (b : Bridge) (transacted : Bool) : Except BrokerError Unit :=
  match b.ensureOpen with
  | .error e => .error e
  | .ok _ => if transacted then .error (.unsupported .bridgedTransaction) else .ok ()

/-- Open a publisher to the topic of a name. -/
def openPublisher (topic : String) : Except BrokerError Publisher :=
  (checkTopic topic).map fun _ => { topic }

/-- Publish a message with the settings of a publisher. -/
def send (b : Bridge) (p : Publisher) (m : Message) : Except BrokerError Unit × Bridge :=
  b.request (p.packet m) .progress

/-- Disconnect, then wait until the drive has ended. A failure to disconnect does not keep the
client open. -/
def close (b : Bridge) : Except BrokerError Unit × Bridge :=
  if b.isClosed then (.ok (), b)
  else
    let (outcome, b) := b.request .disconnect .disconnected
    (outcome, { b.awaitGivenUp with isClosed := true })

def isTransacted : Bool := false

def commit : Except BrokerError Unit := .error (.unsupported .bridgedCommit)

def rollback : Except BrokerError Unit := .error (.unsupported .bridgedRollback)

def offersBrowser : Bool := false

end Bridge

end Sluice.Mqtt
