import Sluice.Keyed
import Sluice.Wire.Scalar

/-! # Payloads of object messages

An object message carries a tree that follows the value it was made from node for node, with each
application object replaced by its type name and its serialized form. Maps are written in key order;
they are read in any order, and of two entries with one key the later stays.
-/

namespace Sluice

/-- What an object message carries. -/
inductive Payload where
  | string (s : String)
  | int (n : Int32)
  | long (n : Int64)
  | double (x : Double)
  | float (x : Single)
  | boolean (b : Bool)
  | short (n : Int16)
  | byte (n : Int8)
  | char (c : Char)
  | bytes (data : Bytes)
  | list (items : List Payload)
  | map (entries : List (String × Payload))
  | object (typeName : String) (data : Bytes)

namespace Payload

open Wire

mutual

/-- Every map inside the payload lists its entries in increasing key order. -/
def Ordered : Payload → Prop
  | .list items => OrderedItems items
  | .map entries => entries.Pairwise (fun a b => a.1 < b.1) ∧ OrderedEntries entries
  | _ => True

def OrderedItems : List Payload → Prop
  | [] => True
  | p :: rest => p.Ordered ∧ OrderedItems rest

def OrderedEntries : List (String × Payload) → Prop
  | [] => True
  | (_, p) :: rest => p.Ordered ∧ OrderedEntries rest

end

mutual

/-- The wire form of a payload: the tag of its kind and its contents. -/
def encode : Payload → Bytes
  | .string s => 0 :: encodeString s
  | .int n => 1 :: encodeInt n.toInt
  | .long n => 2 :: encodeInt n.toInt
  | .double x => 3 :: encodeDouble x
  | .float x => 4 :: encodeSingle x
  | .boolean b => 5 :: encodeBool b
  | .short n => 6 :: encodeInt n.toInt
  | .byte n => [7, n.toUInt8]
  | .char c => 8 :: encodeChar c
  | .bytes data => 9 :: encodeBytes data
  | .list items => 10 :: (encodeNat items.length ++ encodeItems items)
  | .map entries => 11 :: (encodeNat entries.length ++ encodeEntries entries)
  | .object typeName data => 12 :: (encodeString typeName ++ encodeBytes data)

/-- The wire forms of the items of a list. -/
def encodeItems : List Payload → Bytes
  | [] => []
  | p :: rest => p.encode ++ encodeItems rest

/-- The wire forms of the entries of a map, each behind its key. -/
def encodeEntries : List (String × Payload) → Bytes
  | [] => []
  | (key, p) :: rest => encodeString key ++ p.encode ++ encodeEntries rest

end

/-- Take a payload in which payloads stand inside each other at most `depth` deep. -/
def decodeWithin : Nat → Decoder Payload
  | 0 => Decoder.fail .unexpectedEnd
  | depth + 1 => do
      match ← decodeTag with
      | 0 => return .string (← decodeString)
      | 1 => return .int (Int32.ofInt (← decodeInt 4))
      | 2 => return .long (Int64.ofInt (← decodeInt 8))
      | 3 => return .double (← decodeDouble)
      | 4 => return .float (← decodeSingle)
      | 5 => return .boolean (← decodeBool)
      | 6 => return .short (Int16.ofInt (← decodeInt 2))
      | 7 => return .byte (← takeByte).toInt8
      | 8 => return .char (← decodeChar)
      | 9 => return .bytes (← decodeBytes)
      | 10 =>
          let count ← decodeNat 8
          return .list (← takeItems (decodeWithin depth) count)
      | 11 =>
          let count ← decodeNat 8
          let entries ← takeItems (do return (← decodeString, ← decodeWithin depth)) count
          return .map (Keyed.ofList entries).entries
      | 12 => return .object (← decodeString) (← decodeBytes)
      | _ => Decoder.fail .unexpectedVariant

/-- Take a payload. Each of the payloads inside takes up a byte for its tag, so the bytes bound how
deep they stand. -/
def decoder : Decoder Payload := fun input => decodeWithin (input.length + 1) input

/-- The payload at the front of a byte sequence. -/
def ofBytes (input : Bytes) : Except DecodeError Payload := decoder.decode input

end Payload

end Sluice
