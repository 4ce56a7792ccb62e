import Sluice.Bytes

/-! # Decoders

A decoder takes what it needs from the front of a byte sequence and leaves the rest. Running out of
bytes is an error of its own, apart from the errors of bytes that are there and wrong.
-/

namespace Sluice.Wire

/-- Why bytes are not the encoding of what was asked for. -/
inductive DecodeError where
  /-- The bytes end too early. -/
  | unexpectedEnd
  /-- A tag stands for no variant. -/
  | unexpectedVariant
  /-- A marker stands for a wider number than was asked for, or for nothing. -/
  | invalidIntegerType
  /-- A text is not well-formed UTF-8. -/
  | utf8
  /-- A character is not well-formed UTF-8. -/
  | invalidCharEncoding
  /-- A truth value is neither 0 nor 1. -/
  | invalidBooleanValue
deriving DecidableEq, Repr

def DecodeError.kind : DecodeError → String
  | .unexpectedEnd => "UnexpectedEnd"
  | .unexpectedVariant => "UnexpectedVariant"
  | .invalidIntegerType => "InvalidIntegerType"
  | .utf8 => "Utf8"
  | .invalidCharEncoding => "InvalidCharEncoding"
  | .invalidBooleanValue => "InvalidBooleanValue"

/-- Takes a value from the front of a byte sequence. -/
abbrev Decoder (α : Type) := StateT Bytes (Except DecodeError) α

def Decoder.fail {α : Type} (e : DecodeError) : Decoder α := fun _ => .error e

def takeByte : Decoder UInt8
  | [] => .error .unexpectedEnd
  | b :: rest => .ok (b, rest)

def takeBytes (count : Nat) : Decoder Bytes := fun input =>
  if count ≤ input.length then .ok (input.take count, input.drop count)
  else .error .unexpectedEnd

/-- Take a number of items, one after the other. -/
def takeItems {α : Type} (item : Decoder α) : Nat → Decoder (List α)
  | 0 => pure []
  | count + 1 => do
      let first ← item
      let rest ← takeItems item count
      return first :: rest

/-- The value at the front of a byte sequence; what stands behind it does not matter. -/
def Decoder.decode {α : Type} (d : Decoder α) (input : Bytes) : Except DecodeError α :=
  (d input).map Prod.fst

end Sluice.Wire
