import Sluice.Message

/-! # Reading map messages

Each getter answers for its own type and for the narrower ones: an integer getter for every integer
of at most its width, the getter of doubles also for floats, and the getter of texts for everything
but byte sequences. A getter that answers gives the stored number, never a shortened one.
-/

namespace Sluice

namespace Field

/-- The text of a field, unless it holds bytes. -/
def asString? : Field → Option String
  | .string s => some s
  | .int n => some (toString n.toInt)
  | .long n => some (toString n.toInt)
  | .double x => some x.render
  | .float x => some x.render
  | .boolean b => some (Value.booleanText b)
  | .short n => some (toString n.toInt)
  | .byte n => some (toString n.toInt)
  | .char c => some (String.singleton c)
  | .bytes _ => none

def asByte? : Field → Option Int8
  | .byte n => some n
  | _ => none

/-- The number of a field of at most 16 bits. -/
def asShort? : Field → Option Int16
  | .short n => some n
  | .byte n => some n.toInt16
  | _ => none

/-- The number of a field of at most 32 bits. -/
def asInt? : Field → Option Int32
  | .int n => some n
  | .short n => some n.toInt32
  | .byte n => some n.toInt32
  | _ => none

/-- The number of a field of at most 64 bits. -/
def asLong? : Field → Option Int64
  | .long n => some n
  | .int n => some n.toInt64
  | .short n => some n.toInt64
  | .byte n => some n.toInt64
  | _ => none

def asFloat? : Field → Option Single
  | .float x => some x
  | _ => none

/-- The number of a double field, or of a float field widened. -/
def asDouble? : Field → Option Double
  | .double x => some x
  | .float x => some x.widen
  | _ => none

def asBoolean? : Field → Option Bool
  | .boolean b => some b
  | _ => none

def asChar? : Field → Option Char
  | .char c => some c
  | _ => none

def asBytes? : Field → Option Bytes
  | .bytes data => some data
  | _ => none

end Field

namespace MapBody

def getString? (b : MapBody) (key : String) : Option String := (b.get? key).bind Field.asString?

def getByte? (b : MapBody) (key : String) : Option Int8 := (b.get? key).bind Field.asByte?

def getShort? (b : MapBody) (key : String) : Option Int16 := (b.get? key).bind Field.asShort?

def getInt? (b : MapBody) (key : String) : Option Int32 := (b.get? key).bind Field.asInt?

def getLong? (b : MapBody) (key : String) : Option Int64 := (b.get? key).bind Field.asLong?

def getFloat? (b : MapBody) (key : String) : Option Single := (b.get? key).bind Field.asFloat?

def getDouble? (b : MapBody) (key : String) : Option Double := (b.get? key).bind Field.asDouble?

def getBoolean? (b : MapBody) (key : String) : Option Bool := (b.get? key).bind Field.asBoolean?

def getChar? (b : MapBody) (key : String) : Option Char := (b.get? key).bind Field.asChar?

def getBytes? (b : MapBody) (key : String) : Option Bytes := (b.get? key).bind Field.asBytes?

end MapBody

end Sluice
