import Sluice.MapBody
import Sluice.Wire.Scalar

/-! # Envelopes

A bridge to a foreign broker sends each message as one envelope: its headers, then its body. The
fields of a map message are written in key order; they are read in any order, and of two fields with
one key the later stays.
-/

namespace Sluice

/-- A message as one byte sequence carries it. -/
structure Envelope where
  correlationId : Option String
  priority : UInt8
  /-- Milliseconds until the message expires; zero for never. -/
  timeToLive : UInt64
  deliveryMode : DeliveryMode
  body : Body
deriving DecidableEq

open Wire

namespace Field

/-- The wire form of a field: the tag of its kind and its contents. -/
def encode : Field → Bytes
  | .string s => 0 :: encodeString s
  | .int n => 1 :: encodeInt n.toInt
  | .long n => 2 :: encodeInt n.toInt
  | .double x => 3 :: encodeDouble x
  | .float x => 4 :: encodeSingle x
  | .boolean b => 5 :: encodeBool b
  | .short n => 6 :: encodeInt n.toInt
  | .byte n => [7, n.toUInt8]
  | .char c => 8 :: encodeChar c
  | .bytes data => 9 :: encodeBytes data

def decoder : Decoder Field := do
  match ← decodeTag with
  | 0 => return .string (← decodeString)
  | 1 => return .int (Int32.ofInt (← decodeInt 4))
  | 2 => return .long (Int64.ofInt (← decodeInt 8))
  | 3 => return .double (← decodeDouble)
  | 4 => return .float (← decodeSingle)
  | 5 => return .boolean (← decodeBool)
  | 6 => return .short (Int16.ofInt (← decodeInt 2))
  | 7 => return .byte (← takeByte).toInt8
  | 8 => return .char (← decodeChar)
  | 9 => return .bytes (← decodeBytes)
  | _ => Decoder.fail .unexpectedVariant

end Field

namespace Body

/-- The wire form of a body: the tag of its form and its contents. -/
def encode : Body → Bytes
  | .text s => 0 :: encodeString s
  | .map fields =>
      1 :: (encodeNat fields.size ++
        fields.entries.flatMap (fun entry => encodeString entry.1 ++ entry.2.encode))
  | .object data => 2 :: encodeBytes data

def decoder : Decoder Body := do
  match ← decodeTag with
  | 0 => return .text (← decodeString)
  | 1 =>
      let count ← decodeNat 8
      let entries ← takeItems (do return (← decodeString, ← Field.decoder)) count
      return .map (Keyed.ofList entries)
  | 2 => return .object (← decodeBytes)
  | _ => Decoder.fail .unexpectedVariant

end Body

namespace DeliveryMode

def encode : DeliveryMode → Bytes
  | .persistent => [0]
  | .nonPersistent => [1]

def decoder : Decoder DeliveryMode := do
  match ← decodeTag with
  | 0 => return .persistent
  | 1 => return .nonPersistent
  | _ => Decoder.fail .unexpectedVariant

end DeliveryMode

namespace Envelope

/-- The envelope of a message. A longer time to live than 64 bits hold is cut down to the
longest. -/
def ofMessage (m : Message) : Envelope where
  correlationId := m.correlationId
  priority := m.priority
  timeToLive := UInt64.ofNat (min m.timeToLive (Nat.pow 2 64 - 1))
  deliveryMode := m.deliveryMode
  body := m.body

def encode (e : Envelope) : Bytes :=
  encodeOption encodeString e.correlationId ++ [e.priority] ++ encodeNat e.timeToLive.toNat ++
    e.deliveryMode.encode ++ e.body.encode

def decoder : Decoder Envelope := do
  let correlationId ← decodeOption decodeString
  let priority ← takeByte
  let timeToLive ← decodeNat 8
  let deliveryMode ← DeliveryMode.decoder
  let body ← Body.decoder
  return { correlationId, priority, timeToLive := UInt64.ofNat timeToLive, deliveryMode, body }

/-- The envelope at the front of a byte sequence. -/
def ofBytes (input : Bytes) : Except DecodeError Envelope := decoder.decode input

end Envelope

end Sluice
