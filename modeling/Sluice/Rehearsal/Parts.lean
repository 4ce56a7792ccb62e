import Sluice.Correlation.Assigner
import Sluice.Encoding

/-! # Stand-ins

Encoders and renderers that show in their output that they were used in the place of the usual ones.
-/

namespace Sluice

/-- The text of the value in angle brackets. -/
def Encoder.angle : Encoder := Encoder.ofValue fun _ v => .ok (.text ("<" ++ v.display ++ ">"))

namespace Renderer

/-- Accepts every pattern, and renders it backwards with the number of known texts behind it. -/
def reverse : Renderer where
  validate _ := .ok ()
  render pattern model :=
    .ok (String.ofList pattern.toList.reverse ++ "|" ++ toString model.size)

def refusing : Renderer where
  validate pattern := .error (.emptyPlaceholder pattern)
  render pattern _ := .error (.emptyPlaceholder pattern)

end Renderer

end Sluice
