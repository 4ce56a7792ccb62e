import Sluice.Wire.Decoder

/-! # Whole numbers on the wire

A number below 251 is one byte. A greater one is a marker that names a width of 2, 4, 8 or 16 bytes,
the smallest that is wide enough, and the number in that many bytes, least significant byte first.
A decoder takes any marker up to the width it was asked for, also where a smaller one would do. A
signed number is folded onto the unsigned ones: 0, -1, 1, -2 and so on become 0, 1, 2, 3.
-/

namespace Sluice.Wire

/-- A number in a given count of bytes, least significant byte first. -/
def littleEndian : Nat → Nat → Bytes
  | 0, _ => []
  | count + 1, n => UInt8.ofNat (n % 256) :: littleEndian count (n / 256)

/-- The number of a sequence of bytes, least significant byte first. -/
def ofLittleEndian : Bytes → Nat
  | [] => 0
  | b :: rest => b.toNat + 256 * ofLittleEndian rest

/-- The wire form of a number below `2 ^ 128`. -/
def encodeNat (n : Nat) : Bytes :=
  if n < 251 then [UInt8.ofNat n]
  else if n < Nat.pow 2 16 then 251 :: littleEndian 2 n
  else if n < Nat.pow 2 32 then 252 :: littleEndian 4 n
  else if n < Nat.pow 2 64 then 253 :: littleEndian 8 n
  else 254 :: littleEndian 16 n

/-- The count of bytes behind a marker. -/
def markerWidth? (marker : UInt8) : Option Nat :=
  if marker = 251 then some 2
  else if marker = 252 then some 4
  else if marker = 253 then some 8
  else if marker = 254 then some 16
  else none

def decodeNat (width : Nat) : Decoder Nat := do
  let first ← takeByte
  if first.toNat < 251 then return first.toNat
  else
    match markerWidth? first with
    | none => Decoder.fail .invalidIntegerType
    | some count =>
        if count ≤ width then return ofLittleEndian (← takeBytes count)
        else Decoder.fail .invalidIntegerType

/-- Fold a signed number onto the unsigned ones. -/
def zigzag (n : Int) : Nat :=
  match n with
  | .ofNat k => 2 * k
  | .negSucc k => 2 * k + 1

/-- The signed number that was folded onto `n`. -/
def unzigzag (n : Nat) : Int := if n % 2 = 0 then (n / 2 : Nat) else Int.negSucc (n / 2)

def encodeInt (n : Int) : Bytes := encodeNat (zigzag n)

/-- Take a signed number of at most `width` bytes. -/
def decodeInt (width : Nat) : Decoder Int := do
  return unzigzag (← decodeNat width)

def decodeTag : Decoder Nat := decodeNat 4

end Sluice.Wire
