import Sluice.MapBody
import Sluice.Wire.Payload

/-! # Encoding values

An encoder turns the value bound to a key into the body of a message. Text messages carry the text
of the value; map messages carry a map entry by entry, primitives in their own type and everything
else as text; object messages carry the whole value, provided that every application object inside
it can be serialized. `Payload.ofValue` reports the first object that cannot, in the order in which
the value lists them.
-/

namespace Sluice

/-- The form of the messages that a router publishes. -/
inductive MessageType where
  | text
  | map
  | object
deriving DecidableEq, Repr, Inhabited

namespace MessageType

def name : MessageType → String
  | .text => "text"
  | .map => "map"
  | .object => "object"

/-- Read a name in any letter case, with white space around it. -/
def parse (s : String) : Except NameError MessageType :=
  let shown := Text.lower (Text.trim s)
  if shown = "text" ∨ shown = "textmessage" then .ok .text
  else if shown = "map" ∨ shown = "mapmessage" then .ok .map
  else if shown = "object" ∨ shown = "objectmessage" then .ok .object
  else .error (.messageType shown)

end MessageType

/-- Why a value cannot be published. -/
inductive EncodingError where
  /-- Nothing is bound to the key. -/
  | missingValue (key : String)
  /-- A map message was asked for and the value is no map. -/
  | typeMismatch (key typeName : String)
  /-- An application object has no serializer. -/
  | notSerializable (key typeName : String)
  /-- The serializer of an application object failed. -/
  | serialization (key reason : String)
deriving DecidableEq, Repr

def EncodingError.kind : EncodingError → String
  | .missingValue _ => "MissingValue"
  | .typeMismatch _ _ => "TypeMismatch"
  | .notSerializable _ _ => "NotSerializable"
  | .serialization _ _ => "Serialization"

def EncodingError.message : EncodingError → String
  | .missingValue key =>
      "Value '" ++ key ++ "' not available in the execution context. Check the order in which " ++
        "the components producing it are applied"
  | .typeMismatch key typeName =>
      "Value '" ++ key ++ "' of type '" ++ typeName ++
        "' cannot be sent as a map message because it is not a mapping"
  | .notSerializable key typeName =>
      "Value '" ++ key ++ "' of type '" ++ typeName ++
        "' cannot be sent as an object message because it is not serializable"
  | .serialization key reason => "Failed to serialize value '" ++ key ++ "': " ++ reason

/-- The field of a map message for an entry: primitives keep their type, the rest becomes text. -/
def Field.ofValue : Value → Field
  | .string s => .string s
  | .int n => .int n
  | .long n => .long n
  | .double x => .double x
  | .float x => .float x
  | .boolean b => .boolean b
  | .short n => .short n
  | .byte n => .byte n
  | .char c => .char c
  | .bytes data => .bytes data
  | v => .string v.display

def Field.toValue : Field → Value
  | .string s => .string s
  | .int n => .int n
  | .long n => .long n
  | .double x => .double x
  | .float x => .float x
  | .boolean b => .boolean b
  | .short n => .short n
  | .byte n => .byte n
  | .char c => .char c
  | .bytes data => .bytes data

theorem Field.ofValue_toValue (f : Field) : Field.ofValue f.toValue = f := by
  cases f <;> rfl

/-- A payload that is a field by itself. -/
def Payload.field? : Payload → Option Field
  | .string s => some (.string s)
  | .int n => some (.int n)
  | .long n => some (.long n)
  | .double x => some (.double x)
  | .float x => some (.float x)
  | .boolean b => some (.boolean b)
  | .short n => some (.short n)
  | .byte n => some (.byte n)
  | .char c => some (.char c)
  | .bytes data => some (.bytes data)
  | .list _ => none
  | .map _ => none
  | .object _ _ => none

/-- Why an application object cannot become part of a payload. -/
inductive ObjectFault where
  /-- The object has no serializer. -/
  | notSerializable (typeName : String)
  /-- The serializer failed. -/
  | serialization (reason : String)
deriving DecidableEq, Repr

/-- The encoding error of an object found under a key. -/
def ObjectFault.under (key : String) : ObjectFault → EncodingError
  | .notSerializable typeName => .notSerializable key typeName
  | .serialization reason => .serialization key reason

namespace Payload

mutual

/-- The payload that follows a value node for node. -/
def ofValue : Value → Except ObjectFault Payload
  | .string s => .ok (.string s)
  | .int n => .ok (.int n)
  | .long n => .ok (.long n)
  | .double x => .ok (.double x)
  | .float x => .ok (.float x)
  | .boolean b => .ok (.boolean b)
  | .short n => .ok (.short n)
  | .byte n => .ok (.byte n)
  | .char c => .ok (.char c)
  | .bytes data => .ok (.bytes data)
  | .list items => (ofItems items).map .list
  | .map entries => (ofEntries entries).map .map
  | .object o =>
      match o.serialized with
      | none => .error (.notSerializable o.typeName)
      | some (.error reason) => .error (.serialization reason)
      | some (.ok data) => .ok (.object o.typeName data)

def ofItems : List Value → Except ObjectFault (List Payload)
  | [] => .ok []
  | v :: rest =>
      match ofValue v with
      | .error e => .error e
      | .ok p => (ofItems rest).map (p :: ·)

def ofEntries : List (String × Value) → Except ObjectFault (List (String × Payload))
  | [] => .ok []
  | (key, v) :: rest =>
      match ofValue v with
      | .error e => .error e
      | .ok p => (ofEntries rest).map ((key, p) :: ·)

end

end Payload

/-- A way to turn the value bound to a key into the body of a message. -/
abbrev Encoder := String → Context → Except EncodingError Body

namespace Encoder

/-- Encode the value bound to a key. -/
def ofValue (encode : String → Value → Except EncodingError Body) : Encoder := fun key context =>
  match context.get? key with
  | none => .error (.missingValue key)
  | some v => encode key v

def text : Encoder := ofValue fun _ v => .ok (.text v.display)

/-- The entries of a map in the most specific field types. -/
def map : Encoder := ofValue fun key v =>
  match v.entries? with
  | none => .error (.typeMismatch key v.typeName)
  | some entries =>
      .ok (.map (Keyed.ofList (entries.map (fun entry => (entry.1, Field.ofValue entry.2)))))

def object : Encoder := ofValue fun key v =>
  match Payload.ofValue v with
  | .error e => .error (e.under key)
  | .ok p => .ok (.object p.encode)

end Encoder

def MessageType.encoder : MessageType → Encoder
  | .text => Encoder.text
  | .map => Encoder.map
  | .object => Encoder.object

end Sluice
