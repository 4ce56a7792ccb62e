import Sluice.Text.Numeral
import Sluice.Value
import Sluice.Wire.Payload

/-! # Scalars as application objects

A scalar of one of the common types can travel as an application object: its serialized form is its
wire form, and `ScalarType.decode` takes it back out of a payload.
-/

namespace Sluice

/-- The types of scalars. -/
inductive ScalarType where
  | unsigned (bytes : Nat)
  | signed (bytes : Nat)
  | single
  | double
  | boolean
  | char
  | string
deriving DecidableEq, Repr

namespace ScalarType

/-- The values of a scalar type. -/
@[reducible] def Carrier : ScalarType → Type
  | .unsigned bytes => BitVec (8 * bytes)
  | .signed bytes => BitVec (8 * bytes)
  | .single => Single
  | .double => Double
  | .boolean => Bool
  | .char => Char
  | .string => String

def name : ScalarType → String
  | .unsigned bytes => "u" ++ toString (8 * bytes)
  | .signed bytes => "i" ++ toString (8 * bytes)
  | .single => "f32"
  | .double => "f64"
  | .boolean => "bool"
  | .char => "char"
  | .string => "alloc::string::String"

def display : (t : ScalarType) → t.Carrier → String
  | .unsigned _, n => toString n.toNat
  | .signed _, n => toString n.toInt
  | .single, x => x.render
  | .double, x => x.render
  | .boolean, b => Value.booleanText b
  | .char, c => String.singleton c
  | .string, s => s

/-- The wire form of a scalar. Numbers of one byte are that byte. -/
def encode : (t : ScalarType) → t.Carrier → Bytes
  | .unsigned 1, n => [UInt8.ofNat n.toNat]
  | .unsigned _, n => Wire.encodeNat n.toNat
  | .signed 1, n => [UInt8.ofNat n.toNat]
  | .signed _, n => Wire.encodeInt n.toInt
  | .single, x => Wire.encodeSingle x
  | .double, x => Wire.encodeDouble x
  | .boolean, b => Wire.encodeBool b
  | .char, c => Wire.encodeChar c
  | .string, s => Wire.encodeString s

def decoder : (t : ScalarType) → Wire.Decoder t.Carrier
  | .unsigned 1 => do return BitVec.ofNat _ (← Wire.takeByte).toNat
  | .unsigned bytes => do return BitVec.ofNat _ (← Wire.decodeNat bytes)
  | .signed 1 => do return BitVec.ofNat _ (← Wire.takeByte).toNat
  | .signed bytes => do return BitVec.ofInt _ (← Wire.decodeInt bytes)
  | .single => Wire.decodeSingle
  | .double => Wire.decodeDouble
  | .boolean => Wire.decodeBool
  | .char => Wire.decodeChar
  | .string => Wire.decodeString

def toObject (t : ScalarType) (x : t.Carrier) : AppObject where
  typeName := t.name
  display := t.display x
  serialized := some (.ok (t.encode x))

/-- The scalar that a payload carries as an application object; none if the payload is no object. -/
def decode (t : ScalarType) : Payload → Option (Except Wire.DecodeError t.Carrier)
  | .object _ data => some ((t.decoder).decode data)
  | _ => none

end ScalarType

end Sluice
