/-! # Faults of JSON documents -/

namespace Sluice

/-- What is wrong with a JSON document. -/
inductive JsonFault where
  /-- It is malformed. -/
  | syntaxError
  /-- It ends too early. -/
  | ended
  /-- It is well formed so far and does not describe what was asked for. -/
  | data
deriving DecidableEq, Repr

def JsonFault.kind : JsonFault → String
  | .syntaxError => "syntax"
  | .ended => "eof"
  | .data => "data"

end Sluice
