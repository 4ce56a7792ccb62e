import Sluice.Number.Binary
import Sluice.Wire.Integer

/-! # Texts, characters and other scalars on the wire

Texts and byte sequences are preceded by their length in bytes. A character is its UTF-8 bytes, the
first of which tells how many there are. Floating point numbers are their bits, least significant
byte first. A truth value and the presence of an optional value are one byte.
-/

namespace Sluice.Wire

def encodeBytes (data : Bytes) : Bytes := encodeNat data.length ++ data

def decodeBytes : Decoder Bytes := do
  takeBytes (← decodeNat 8)

def encodeString (s : String) : Bytes := encodeBytes (Bytes.ofString s)

def decodeString : Decoder String := do
  match Bytes.toString? (← decodeBytes) with
  | some s => return s
  | none => Decoder.fail .utf8

def encodeChar (c : Char) : Bytes := String.utf8EncodeChar c

/-- How many bytes a character has that starts with this one; none if no character does. -/
def charWidth? (first : UInt8) : Option Nat :=
  let b := first.toNat
  if b < 0x80 then some 1
  else if b < 0xc2 then none
  else if b < 0xe0 then some 2
  else if b < 0xf0 then some 3
  else if b < 0xf5 then some 4
  else none

def decodeChar : Decoder Char := do
  let first ← takeByte
  match charWidth? first with
  | none => Decoder.fail .invalidCharEncoding
  | some width =>
      let rest ← takeBytes (width - 1)
      match (Bytes.toString? (first :: rest)).map String.toList with
      | some [c] => return c
      | _ => Decoder.fail .invalidCharEncoding

def encodeDouble (x : Double) : Bytes := littleEndian 8 x.bits.toNat

def decodeDouble : Decoder Double := do
  return ⟨UInt64.ofNat (ofLittleEndian (← takeBytes 8))⟩

def encodeSingle (x : Single) : Bytes := littleEndian 4 x.bits.toNat

def decodeSingle : Decoder Single := do
  return ⟨UInt32.ofNat (ofLittleEndian (← takeBytes 4))⟩

def encodeBool (b : Bool) : Bytes := [if b then 1 else 0]

def decodeBool : Decoder Bool := do
  let b ← takeByte
  if b = 0 then return false
  else if b = 1 then return true
  else Decoder.fail .invalidBooleanValue

def encodeOption {α : Type} (encode : α → Bytes) : Option α → Bytes
  | none => [0]
  | some x => 1 :: encode x

def decodeOption {α : Type} (decode : Decoder α) : Decoder (Option α) := do
  let b ← takeByte
  if b = 0 then return none
  else if b = 1 then return some (← decode)
  else Decoder.fail .unexpectedVariant

end Sluice.Wire
