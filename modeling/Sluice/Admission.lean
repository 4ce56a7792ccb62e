import Sluice.Task.Request

/-! # Admission

Before a message is sent to a queue, its depth is looked at; while it is at or above the high-water
mark, the sender rests and looks again, until the queue has drained or the time is up. An
interruption lets everybody through who rests at that moment; a station that was shut down lets
everybody through.
-/

namespace Sluice

/-- How a message was let through. -/
inductive Admission where
  /-- The depth is not looked at. -/
  | disabled
  /-- The destination is no queue. -/
  | notInspectable
  /-- The depth was below the mark, after a wait. -/
  | admitted (waited : Nat)
  /-- The wait was ended, or not begun. -/
  | interrupted
deriving DecidableEq, Repr

/-- Why a message was not let through. -/
inductive AdmissionError where
  /-- The depth stayed at or above the mark. -/
  | timedOut (depth : Nat)
  /-- The depth could not be looked at. -/
  | inspection (cause : BrokerError)
  /-- The clock stood still: as many rests were over as the timeout has milliseconds, and time was
  left. No wait ends so whose poll interval takes any time. -/
  | stalled (depth : Nat)
deriving DecidableEq, Repr

/-- The words for the kind of an admission error and of its cause. -/
def AdmissionError.kind : AdmissionError → String
  | .timedOut _ => "TimedOut"
  | .inspection cause => "Inspection." ++ cause.kind
  | .stalled _ => "Stalled"

def AdmissionError.message : AdmissionError → String
  | .timedOut depth =>
      "destination depth " ++ toString depth ++ " did not drop below the high-water mark in time"
  | .inspection cause => "failed to inspect destination depth: " ++ cause.message
  | .stalled depth =>
      "destination depth " ++ toString depth ++
        " did not drop below the high-water mark while the clock stood still"

namespace AdmissionConfig

/-- Judge a depth, and as long as it is too great and the clock says that time is left, rest and
look again. Only the clock ends the wait. The script of it is finite because no more than `rests`
rests are taken, and one for each millisecond of the timeout is enough if a rest takes any time. It
takes none with a poll interval of zero, which `Config.validate` refuses: such a wait would look
again and again until others have let the time pass, and is given up as stalled after so many looks.
-/
def watch (c : AdmissionConfig) (browser : Handle .browser) (ticket start : Nat) :
    (rests depth : Nat) → Work (Except AdmissionError Admission)
  | rests, depth => do
      if depth < c.threshold then
        return .ok (.admitted ((← Work.clock) - start))
      else if (← Work.clock) < start + c.timeout then
        match rests with
        | 0 => return .error (.stalled depth)
        | rests + 1 =>
            if ← Work.restUnlessInterrupted c.pollInterval ticket then
              return .ok .interrupted
            match ← Work.call (.browse browser) with
            | .error cause => return .error (.inspection cause)
            | .ok depth => watch c browser ticket start rests depth
      else
        return .error (.timedOut depth)

/-- Wait with an open browser until the depth is below the mark. The ticket is taken before the
signal is looked at once more, so that no shutdown is missed. -/
def awaitBelowMark (c : AdmissionConfig) (browser : Handle .browser) :
    Work (Except AdmissionError Admission) := do
  let ticket ← Work.enlist
  if ← Work.isShutDown then
    return .ok .interrupted
  let start ← Work.clock
  match ← Work.call (.browse browser) with
  | .error cause => return .error (.inspection cause)
  | .ok depth => watch c browser ticket start c.timeout depth

/-- Wait until a destination can take a message. The browser is closed however the wait ends. -/
def awaitCapacity (c : AdmissionConfig) (session : Handle .session) (destination : Destination) :
    Work (Except AdmissionError Admission) := do
  if !c.isEnabled then
    return .ok .disabled
  if ← Work.isShutDown then
    return .ok .interrupted
  match ← Work.call (.createBrowser session destination) with
  | .error cause => return .error (.inspection cause)
  | .ok none => return .ok .notInspectable
  | .ok (some browser) =>
      let result ← awaitBelowMark c browser
      let _ ← Work.call (.closeBrowser browser)
      return result

end AdmissionConfig

end Sluice
