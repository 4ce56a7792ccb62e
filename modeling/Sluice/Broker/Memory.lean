import Sluice.Broker.Basic
import Sluice.Message

/-! # The broker in memory

Destinations are mailboxes by name; each holds its messages in the order in which they were
delivered. Clients reach them through handles: connections, sessions, producers and browsers. A
producer of a transacted session puts messages aside until the session commits. Every operation is a
function of the time at which it takes place; a message whose expiry has come is never seen again.

An operation looks first whether its handle is open, then whether the broker offers the operation,
then whether a fault is armed for it, and only then takes effect. Closing always takes effect.
-/

namespace Sluice

/-- The handle with which a client refers to what a broker opened for it. -/
structure Handle (kind : HandleKind) where
  index : Nat
deriving DecidableEq, Repr

/-- A message in the keeping of a broker. -/
structure Parcel where
  /-- Distinguishes the messages of a broker. -/
  serial : Nat
  destination : String
  message : Message
  /-- The time from which on the message counts as gone. -/
  expiresAt : Option Nat
deriving DecidableEq

namespace Parcel

/-- The id that the broker gives to a message. A running number stands for a random id that no other
message has. -/
def messageId (p : Parcel) : String := "ID:" ++ toString p.serial

def isExpired (p : Parcel) (now : Nat) : Bool := p.expiresAt.any (· ≤ now)

end Parcel

/-- A destination and the messages that wait there, the oldest first. -/
structure Mailbox where
  kind : DestinationKind
  parcels : List Parcel := []
deriving DecidableEq

/-- Drop the messages that count as gone. -/
def Mailbox.purge (m : Mailbox) (now : Nat) : Mailbox :=
  { m with parcels := m.parcels.filter (fun p => !p.isExpired now) }

/-- A session as the broker knows it. -/
structure SessionRecord where
  isOpen : Bool := true
  /-- What the producers of a transacted session have sent since its last commit or rollback. -/
  pending : Option (List Parcel)
deriving DecidableEq

/-- A producer as the broker knows it. -/
structure ProducerRecord where
  isOpen : Bool := true
  session : Handle .session
  destination : String
  settings : DeliverySettings := {}
deriving DecidableEq

/-- A browser as the broker knows it. -/
structure BrowserRecord where
  isOpen : Bool := true
  destination : String
deriving DecidableEq

/-- How many handles of each kind are open. -/
structure OpenHandles where
  connections : Nat := 0
  sessions : Nat := 0
  producers : Nat := 0
  browsers : Nat := 0
deriving DecidableEq, Repr

namespace OpenHandles

def count (h : OpenHandles) : HandleKind → Nat
  | .connection => h.connections
  | .session => h.sessions
  | .producer => h.producers
  | .browser => h.browsers

/-- Change the number of open handles of a kind. -/
def update (h : OpenHandles) (f : Nat → Nat) : HandleKind → OpenHandles
  | .connection => { h with connections := f h.connections }
  | .session => { h with sessions := f h.sessions }
  | .producer => { h with producers := f h.producers }
  | .browser => { h with browsers := f h.browsers }

def isEmpty (h : OpenHandles) : Bool := h = {}

end OpenHandles

/-- A broker in memory. The handle of a record is its place in the list of its kind. -/
structure Broker where
  mailboxes : Keyed Mailbox := Keyed.empty
  /-- The credentials without which no connection is opened. -/
  required : Option Credentials := none
  /-- The points at which the next operation fails. -/
  armed : List FaultPoint := []
  /-- Whether each connection is open. -/
  connections : List Bool := []
  sessions : List SessionRecord := []
  producers : List ProducerRecord := []
  browsers : List BrowserRecord := []
  openHandles : OpenHandles := {}
  /-- The serial number of the next message. -/
  nextSerial : Nat := 0

namespace Broker

/-! ### Destinations and messages -/

/-- Make a destination known, unless its name is known already. -/
def declare (b : Broker) (d : Destination) : Broker :=
  if b.mailboxes.contains d.name then b
  else { b with mailboxes := b.mailboxes.insert d.name { kind := d.kind } }

/-- Append a message to its mailbox; a name that is not known yet becomes a queue. -/
def deliver (b : Broker) (p : Parcel) : Broker :=
  let mailbox := (b.mailboxes.get? p.destination).getD { kind := .queue }
  { b with
    mailboxes :=
      b.mailboxes.insert p.destination { mailbox with parcels := mailbox.parcels ++ [p] } }

/-- Append messages to their mailboxes, one after the other. -/
def deliverAll (b : Broker) (parcels : List Parcel) : Broker := parcels.foldl deliver b

/-- The message as the broker keeps it when it is handed over at time `now`. -/
def pack (b : Broker) (now : Nat) (destination : String) (m : Message) : Parcel where
  serial := b.nextSerial
  destination := destination
  message := m
  expiresAt := if m.timeToLive = 0 then none else some (now + m.timeToLive)

/-- Take a message in, to be delivered at once. -/
def inject (b : Broker) (now : Nat) (d : Destination) (m : Message) : Broker :=
  { b.deliver (b.pack now d.name m) with nextSerial := b.nextSerial + 1 }

/-- Drop the messages of a name that count as gone. -/
def purge (b : Broker) (now : Nat) (name : String) : Broker :=
  { b with mailboxes := b.mailboxes.modify name (fun m => m.purge now) }

/-- The messages that wait under a name, the oldest first. -/
def waiting (b : Broker) (name : String) : List Parcel :=
  ((b.mailboxes.get? name).map Mailbox.parcels).getD []

/-- Put other messages in the place of those that wait under a known name. -/
def replaceWaiting (b : Broker) (name : String) (parcels : List Parcel) : Broker :=
  { b with mailboxes := b.mailboxes.modify name (fun m => { m with parcels }) }

def depth (b : Broker) (now : Nat) (name : String) : Nat × Broker :=
  let b := b.purge now name
  ((b.waiting name).length, b)

/-- Take the oldest message that waits under a name. -/
def receive (b : Broker) (now : Nat) (name : String) : Option Parcel × Broker :=
  let b := b.purge now name
  match b.waiting name with
  | [] => (none, b)
  | p :: rest => (some p, b.replaceWaiting name rest)

def drain (b : Broker) (now : Nat) (name : String) : List Parcel × Broker :=
  let b := b.purge now name
  (b.waiting name, b.replaceWaiting name [])

def clear (b : Broker) (name : String) : Broker := b.replaceWaiting name []

/-- Open no connection without these credentials from now on. -/
def requireCredentials (b : Broker) (c : Credentials) : Broker := { b with required := some c }

/-! ### Faults and handles -/

def failNext (b : Broker) (point : FaultPoint) : Broker :=
  if point ∈ b.armed then b else { b with armed := point :: b.armed }

/-- Use up the fault armed at a point, if there is one. -/
def disarm (b : Broker) (point : FaultPoint) : Broker :=
  { b with armed := b.armed.filter (· ≠ point) }

/-- The outcome of an operation at a point and the broker after it, given what the operation does
when no fault is armed there. -/
def attempt {α : Type} (b : Broker) (point : FaultPoint)
    (act : Broker → Except BrokerError α × Broker) : Except BrokerError α × Broker :=
  if point ∈ b.armed then (.error (.transport (.injected point)), b.disarm point) else act b

def countOpened (b : Broker) (kind : HandleKind) : Broker :=
  { b with openHandles := b.openHandles.update (· + 1) kind }

def countClosed (b : Broker) (kind : HandleKind) : Broker :=
  { b with openHandles := b.openHandles.update (· - 1) kind }

/-- Report a fault armed at a point after all, once the effect has taken place. -/
def closing (b : Broker) (point : FaultPoint) (close : Broker → Broker) :
    Except BrokerError Unit × Broker :=
  if point ∈ b.armed then
    (.error (.transport (.injected point)), close (b.disarm point))
  else (.ok (), close b)

/-! ### Connections -/

def connectionOpen (b : Broker) (c : Handle .connection) : Bool :=
  (b.connections[c.index]?).getD false

/-- The refusal of a client that does not present the required credentials. -/
def refusal (required presented : Option Credentials) : Option BrokerError :=
  match required with
  | none => none
  | some _ =>
      if presented = required then none
      else some (.authentication ((presented.map Credentials.principal).getD ""))

def createConnection (b : Broker) (credentials : Option Credentials) :
    Except BrokerError (Handle .connection) × Broker :=
  b.attempt .createConnection fun b =>
    match refusal b.required credentials with
    | some e => (.error e, b)
    | none =>
        (.ok ⟨b.connections.length⟩,
          countOpened { b with connections := b.connections ++ [true] } .connection)

/-- An operation of a connection that has no effect but to use up a fault. -/
def gateConnection (b : Broker) (c : Handle .connection) (point : FaultPoint) :
    Except BrokerError Unit × Broker :=
  if b.connectionOpen c then b.attempt point fun b => (.ok (), b)
  else (.error (.closed .connection), b)

/-- Let messages flow to consumers. Producers send either way. -/
def startConnection (b : Broker) (c : Handle .connection) : Except BrokerError Unit × Broker :=
  b.gateConnection c .startConnection

/-- Keep messages from consumers. Producers send either way. -/
def stopConnection (b : Broker) (c : Handle .connection) : Except BrokerError Unit × Broker :=
  b.gateConnection c .stopConnection

def closeConnection (b : Broker) (c : Handle .connection) : Except BrokerError Unit × Broker :=
  b.closing .closeConnection fun b =>
    if b.connectionOpen c then
      countClosed { b with connections := b.connections.set c.index false } .connection
    else b

/-! ### Sessions -/

def sessionOpen (b : Broker) (s : Handle .session) : Bool :=
  ((b.sessions[s.index]?).map SessionRecord.isOpen).getD false

/-- What a session has put aside; none if it is not transacted. -/
def pending (b : Broker) (s : Handle .session) : Option (List Parcel) :=
  (b.sessions[s.index]?).bind SessionRecord.pending

def modifySession (b : Broker) (s : Handle .session) (f : SessionRecord → SessionRecord) : Broker :=
  { b with sessions := b.sessions.modify s.index f }

def setPending (b : Broker) (s : Handle .session) (parcels : List Parcel) : Broker :=
  b.modifySession s fun r => { r with pending := some parcels }

def createSession (b : Broker) (c : Handle .connection) (transacted : Bool) :
    Except BrokerError (Handle .session) × Broker :=
  if b.connectionOpen c then
    b.attempt .createSession fun b =>
      (.ok ⟨b.sessions.length⟩,
        countOpened
          { b with
            sessions := b.sessions ++ [{ pending := if transacted then some [] else none }] }
          .session)
  else (.error (.closed .connection), b)

def commit (b : Broker) (s : Handle .session) : Except BrokerError Unit × Broker :=
  if b.sessionOpen s then
    match b.pending s with
    | none => (.error (.unsupported .plainCommit), b)
    | some parcels =>
        b.attempt .commit fun b => (.ok (), (b.setPending s []).deliverAll parcels)
  else (.error (.closed .session), b)

def rollback (b : Broker) (s : Handle .session) : Except BrokerError Unit × Broker :=
  if b.sessionOpen s then
    match b.pending s with
    | none => (.error (.unsupported .plainRollback), b)
    | some _ => (.ok (), b.setPending s [])
  else (.error (.closed .session), b)

/-- Close a session. What it has put aside is discarded. -/
def closeSession (b : Broker) (s : Handle .session) : Except BrokerError Unit × Broker :=
  b.closing .closeSession fun b =>
    let b := b.modifySession s fun r => { r with pending := r.pending.map (fun _ => []) }
    if b.sessionOpen s then
      (b.modifySession s fun r => { r with isOpen := false }).countClosed .session
    else b

/-! ### Producers -/

def createProducer (b : Broker) (s : Handle .session) (d : Destination) :
    Except BrokerError (Handle .producer) × Broker :=
  if b.sessionOpen s then
    b.attempt .createProducer fun b =>
      (.ok ⟨b.producers.length⟩,
        countOpened
          { b with producers := b.producers ++ [{ session := s, destination := d.name }] }
          .producer)
  else (.error (.closed .session), b)

def openProducer? (b : Broker) (p : Handle .producer) : Option ProducerRecord :=
  (b.producers[p.index]?).filter ProducerRecord.isOpen

/-- Set what a producer stamps on its messages. -/
def applySettings (b : Broker) (p : Handle .producer) (settings : DeliverySettings) :
    Except BrokerError Unit × Broker :=
  match b.openProducer? p with
  | none => (.error (.closed .producer), b)
  | some _ =>
      b.attempt .applySettings fun b =>
        (.ok (), { b with producers := b.producers.modify p.index fun r => { r with settings } })

/-- Send a message with the producer's settings: at once, or with the next commit of a transacted
session. -/
def send (b : Broker) (now : Nat) (p : Handle .producer) (m : Message) :
    Except BrokerError Unit × Broker :=
  match b.openProducer? p with
  | none => (.error (.closed .producer), b)
  | some r =>
      b.attempt .send fun b =>
        let parcel := b.pack now r.destination (m.stamp r.settings)
        let b := { b with nextSerial := b.nextSerial + 1 }
        match b.pending r.session with
        | some parcels => (.ok (), b.setPending r.session (parcels ++ [parcel]))
        | none => (.ok (), b.deliver parcel)

def closeProducer (b : Broker) (p : Handle .producer) : Except BrokerError Unit × Broker :=
  b.closing .closeProducer fun b =>
    match b.openProducer? p with
    | none => b
    | some _ =>
        countClosed
          { b with producers := b.producers.modify p.index fun r => { r with isOpen := false } }
          .producer

/-! ### Browsers -/

/-- The kind of a destination: what its name is known as, or else what the client takes it for. -/
def kindOf (b : Broker) (d : Destination) : DestinationKind :=
  ((b.mailboxes.get? d.name).map Mailbox.kind).getD d.kind

/-- Open a browser, if the destination is a queue. -/
def createBrowser (b : Broker) (s : Handle .session) (d : Destination) :
    Except BrokerError (Option (Handle .browser)) × Broker :=
  if b.sessionOpen s then
    b.attempt .browse fun b =>
      match b.kindOf d with
      | .topic => (.ok none, b)
      | .queue =>
          (.ok (some ⟨b.browsers.length⟩),
            countOpened { b with browsers := b.browsers ++ [{ destination := d.name }] } .browser)
  else (.error (.closed .session), b)

def openBrowser? (b : Broker) (w : Handle .browser) : Option BrowserRecord :=
  (b.browsers[w.index]?).filter BrowserRecord.isOpen

def browse (b : Broker) (now : Nat) (w : Handle .browser) : Except BrokerError Nat × Broker :=
  match b.openBrowser? w with
  | none => (.error (.closed .browser), b)
  | some r =>
      b.attempt .browse fun b =>
        let (count, b) := b.depth now r.destination
        (.ok count, b)

def closeBrowser (b : Broker) (w : Handle .browser) : Except BrokerError Unit × Broker :=
  match b.openBrowser? w with
  | none => (.ok (), b)
  | some _ =>
      (.ok (),
        countClosed
          { b with browsers := b.browsers.modify w.index fun r => { r with isOpen := false } }
          .browser)

end Broker

end Sluice
