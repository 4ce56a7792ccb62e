/-! # Unknown names

Modes and message types are written as names. A name that stands for none of them is reported in the
letter case in which it was compared.
-/

namespace Sluice

/-- A name that stands for nothing of its kind. -/
inductive NameError where
  | deliveryMode (name : String)
  | acknowledgeMode (name : String)
  | messageType (name : String)
deriving DecidableEq, Repr

def NameError.message : NameError → String
  | .deliveryMode name =>
      "unknown delivery mode '" ++ name ++ "', expected 'persistent' or 'non-persistent'"
  | .acknowledgeMode name => "unknown acknowledge mode '" ++ name ++ "'"
  | .messageType name =>
      "unknown message type '" ++ name ++ "', expected 'text', 'map' or 'object'"

end Sluice
