import Sluice.Directory.Naming
import Sluice.Url.Query

/-! # Brokers behind a bridge, by name

A directory of this kind knows one name, that of the connection factory, for which the location of
the broker has to be a usable URL; every other name is the topic of that name. The options of the
URL are looked at in a fixed order and the first that cannot be used is reported; an option that
nobody knows is reported last.
-/

namespace Sluice.Mqtt

/-- Why a URL does not lead to a broker. -/
inductive LocationFault where
  /-- The text is no URL. -/
  | url (fault : UrlFault)
  | scheme
  | clientId
  | keepAlive
  | cleanSession
  | maxIncomingPacketSize
  | maxOutgoingPacketSize
  | requestChannelCapacity
  | maxRequestBatch
  | pendingThrottle
  | inflight
  /-- There is no option of this name. -/
  | unknown (name : String)
deriving DecidableEq, Repr

def LocationFault.message : LocationFault → String
  | .url fault => "Couldn't parse option from url: " ++ fault.message
  | .scheme => "Unsupported URL scheme."
  | .clientId => "Missing client ID."
  | .keepAlive => "Invalid keep-alive value."
  | .cleanSession => "Invalid clean-session value."
  | .maxIncomingPacketSize => "Invalid max-incoming-packet-size value."
  | .maxOutgoingPacketSize => "Invalid max-outgoing-packet-size value."
  | .requestChannelCapacity => "Invalid request-channel-capacity value."
  | .maxRequestBatch => "Invalid max-request-batch value."
  | .pendingThrottle => "Invalid pending-throttle value."
  | .inflight => "Invalid inflight value."
  | .unknown name => "Unknown option: " ++ name

/-- What the options of a URL come to. -/
inductive Verdict where
  | usable
  | faulty (fault : LocationFault)
  /-- Every option has a value of the right kind, but no client works with these values. -/
  | impossible
deriving DecidableEq, Repr

/-- An option that a URL may have. -/
structure LocationOption where
  name : String
  /-- Whether a value is of the right kind. -/
  isUsable : String → Bool
  /-- What is wrong otherwise. -/
  fault : LocationFault
  /-- Whether a client of a name works with a value. -/
  suits : (clientId value : String) → Bool := fun _ _ => true

/-- Whether a text is a whole number of so many bits. -/
def isWhole (bits : Nat) (value : String) : Bool := (Text.readNat (Nat.pow 2 bits - 1) value).isOk

/-- The options of a URL besides the client's name, in the order in which they are looked at. A
client without a name keeps no session, and one that has nothing under way sends nothing. -/
def locationOptions : List LocationOption :=
  [{ name := "keep_alive_secs", isUsable := isWhole 64, fault := .keepAlive },
    { name := "clean_session"
      isUsable := fun value => (Text.readBool? value).isSome
      fault := .cleanSession
      suits := fun clientId value => clientId ≠ "" || Text.readBool? value = some true },
    { name := "max_incoming_packet_size_bytes"
      isUsable := isWhole 64
      fault := .maxIncomingPacketSize },
    { name := "max_outgoing_packet_size_bytes"
      isUsable := isWhole 64
      fault := .maxOutgoingPacketSize },
    { name := "request_channel_capacity_num"
      isUsable := isWhole 64
      fault := .requestChannelCapacity },
    { name := "max_request_batch_num", isUsable := isWhole 64, fault := .maxRequestBatch },
    { name := "pending_throttle_usecs", isUsable := isWhole 64, fault := .pendingThrottle },
    { name := "inflight_num"
      isUsable := isWhole 16
      fault := .inflight
      suits := fun _ value => (Text.readNat 65535 value).toOption ≠ some 0 }]

def clientIdOption : String := "client_id"

/-- What is wrong with an option of a client, if anything. -/
def LocationOption.objection? (o : LocationOption) (clientId : String) (value : String) :
    Option Verdict :=
  if !o.isUsable value then some (.faulty o.fault)
  else if !o.suits clientId value then some .impossible
  else none

/-- What the options of a URL come to; the first objection decides. -/
def judgeOptions (given : List (String × String)) : Verdict :=
  let last : Keyed String := Keyed.ofList given
  let known := clientIdOption :: locationOptions.map LocationOption.name
  match last.get? clientIdOption with
  | none => .faulty .clientId
  | some clientId =>
      let objection := locationOptions.findSome? fun o =>
        (last.get? o.name).bind (o.objection? clientId)
      match objection, (given.map Prod.fst).find? fun name => name ∉ known with
      | some verdict, _ => verdict
      | none, some name => .faulty (.unknown name)
      | none, none => .usable

/-- Whether a URL leads to a broker. -/
def judgeLocation (location : String) : Verdict :=
  match Url.parse location with
  | .error fault => .faulty (.url fault)
  | .ok u =>
      if u.scheme ≠ "mqtt" ∧ u.scheme ≠ "tcp" then .faulty .scheme else judgeOptions u.options

/-- The reason for which a location is refused. -/
def refusedLocation (location : String) (fault : LocationFault) : BrokerError :=
  .unreachable ("invalid url '" ++ location ++ "': " ++ fault.message)

/-- A directory of brokers behind a bridge. -/
structure Directory where
  /-- The name of the connection factory. -/
  factoryName : String
  /-- The location that is used when no properties are given. -/
  defaultUrl : Option String := none

namespace Directory

/-- The properties that are used when none are given. -/
def defaults (d : Directory) : Properties :=
  Keyed.ofList (d.defaultUrl.toList.map fun url => (Sluice.Directory.providerUrlProperty, url))

/-- What a name stands for. There is no answer if the location is that of an impossible client:
whoever asks breaks off. -/
def lookup (d : Directory) (name : String) (properties : Properties) :
    Option (Except NamingError Entry) :=
  if name ≠ d.factoryName then some (.ok (.destination (.topic name)))
  else
    match properties.get? Sluice.Directory.providerUrlProperty with
    | none => some (.error (.missingProperty Sluice.Directory.providerUrlProperty))
    | some location =>
        match judgeLocation location with
        | .usable => some (.ok .connectionFactory)
        | .faulty fault =>
            some (.error (.invalidProperty Sluice.Directory.providerUrlProperty
              (refusedLocation location fault).message))
        | .impossible => none

end Directory

end Sluice.Mqtt
