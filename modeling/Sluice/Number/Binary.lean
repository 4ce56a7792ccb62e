/-! # Binary floating point numbers

Numbers of the two interchange formats are carried as their bits, so that every number, negative
zero and the infinities included, keeps its identity. `BinaryFormat.read` splits the bits of a
number into a sign and a whole multiple of a power of two; `Single.widen` keeps that value.
-/

namespace Sluice

/-- A number in the 64-bit format. -/
structure Double where
  /-- Sign, exponent and fraction. -/
  bits : UInt64
deriving DecidableEq, Repr, Inhabited

/-- A number in the 32-bit format. -/
structure Single where
  /-- Sign, exponent and fraction. -/
  bits : UInt32
deriving DecidableEq, Repr, Inhabited

/-- The widths of the fields of a binary format. -/
structure BinaryFormat where
  /-- Bits of the exponent field. -/
  exponentBits : Nat
  /-- Bits of the fraction field. -/
  fractionBits : Nat

namespace BinaryFormat

def double : BinaryFormat := ⟨11, 52⟩

def single : BinaryFormat := ⟨8, 23⟩

/-- What the bits of a number stand for. -/
inductive Reading where
  /-- No number. -/
  | notANumber
  /-- Beyond every number, on the side of the sign. -/
  | infinite (negative : Bool)
  /-- The number `significand * 2 ^ exponent`, with a sign. -/
  | finite (negative : Bool) (significand : Nat) (exponent : Int)
deriving DecidableEq, Repr

def bias (f : BinaryFormat) : Nat := Nat.pow 2 (f.exponentBits - 1) - 1

/-- The significand of the numbers that use the whole fraction field and no more. -/
def leastNormal (f : BinaryFormat) : Nat := Nat.pow 2 f.fractionBits

/-- The exponent of the numbers closest to zero. -/
def leastExponent (f : BinaryFormat) : Int := 1 - f.bias - f.fractionBits

def read (f : BinaryFormat) (bits : Nat) : Reading :=
  let fraction := bits % Nat.pow 2 f.fractionBits
  let exponent := bits / Nat.pow 2 f.fractionBits % Nat.pow 2 f.exponentBits
  let negative := bits / Nat.pow 2 (f.fractionBits + f.exponentBits) % 2 = 1
  if exponent = Nat.pow 2 f.exponentBits - 1 then
    if fraction = 0 then .infinite negative else .notANumber
  else if exponent = 0 then .finite negative fraction f.leastExponent
  else .finite negative (f.leastNormal + fraction) (f.leastExponent + exponent - 1)

/-- The bits of a number that needs no rounding: its significand has at most one bit more than the
fraction field. -/
def write (f : BinaryFormat) : Reading → Nat
  | .notANumber => infinity f + Nat.pow 2 (f.fractionBits - 1)
  | .infinite negative => signBit f negative + infinity f
  | .finite negative significand exponent =>
      if significand = 0 then signBit f negative
      else
        let top := Nat.log2 significand
        let field := exponent + top + f.bias
        signBit f negative + field.toNat * Nat.pow 2 f.fractionBits +
          (significand - Nat.pow 2 top) * Nat.pow 2 (f.fractionBits - top)
where
  infinity (f : BinaryFormat) : Nat :=
    (Nat.pow 2 f.exponentBits - 1) * Nat.pow 2 f.fractionBits
  signBit (f : BinaryFormat) (negative : Bool) : Nat :=
    if negative then Nat.pow 2 (f.fractionBits + f.exponentBits) else 0

end BinaryFormat

def Double.read (x : Double) : BinaryFormat.Reading := BinaryFormat.double.read x.bits.toNat

def Single.read (x : Single) : BinaryFormat.Reading := BinaryFormat.single.read x.bits.toNat

/-- The double of the same value; every single has one. -/
def Single.widen (x : Single) : Double :=
  ⟨UInt64.ofNat (BinaryFormat.double.write x.read)⟩

end Sluice
