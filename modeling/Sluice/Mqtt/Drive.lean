/-! # Driving a client

Whoever drives a client of a broker polls it again and again. A disconnection ends the drive; so
does a failure, when as many have come in a row as are put up with; after any other failure there is
a pause, and any progress in between starts the count anew.
-/

namespace Sluice.Mqtt

/-- What a client and its broker exchange. -/
inductive Traffic where
  | disconnect
  /-- A message is confirmed. -/
  | acknowledgement
  | other
deriving DecidableEq, Repr

/-- What a poll of the client returns. -/
inductive ClientEvent where
  | received (traffic : Traffic)
  | sent (traffic : Traffic)
  | failed
deriving DecidableEq, Repr

/-- What a poll of the client came to. -/
inductive Poll where
  /-- The client or the broker has disconnected. -/
  | disconnected
  /-- Something was sent or received. -/
  | progress
  /-- The poll failed. -/
  | failure
deriving DecidableEq, Repr

def ClientEvent.poll : ClientEvent → Poll
  | .sent .disconnect => .disconnected
  | .received .disconnect => .disconnected
  | .received .acknowledgement => .progress
  | .received .other => .progress
  | .sent _ => .progress
  | .failed => .failure

/-- How a drive stands. -/
inductive Drive where
  /-- It goes on; `failures` have come in a row. -/
  | running (failures : UInt32)
  /-- It has ended. -/
  | stopped
deriving DecidableEq, Repr

namespace Drive

def start : Drive := .running 0

/-- Go on after a poll; `limit` is the number of failures in a row that ends the drive. -/
def step (limit : UInt32) : Drive → Poll → Drive
  | .stopped, _ => .stopped
  | .running _, .disconnected => .stopped
  | .running _, .progress => .running 0
  | .running failures, .failure =>
      if failures + 1 ≥ limit then .stopped else .running (failures + 1)

/-- Whether there is a pause after a poll: whenever it failed and the drive goes on. -/
def pauses (limit : UInt32) (d : Drive) (p : Poll) : Bool :=
  p = .failure && d ≠ .stopped && d.step limit p ≠ .stopped

def run (limit : UInt32) (d : Drive) (polls : List Poll) : Drive := polls.foldl (step limit) d

/-- What a drive does. -/
inductive Act where
  /-- It polls the client. -/
  | polled (e : ClientEvent)
  /-- It pauses. -/
  | paused (millis : Nat)
deriving DecidableEq, Repr

/-- What is done over the events that the client has to tell; nothing once the drive has ended. A
pause takes `delay`. -/
def acts (limit : UInt32) (delay : Nat) : Drive → List ClientEvent → List Act
  | .stopped, _ => []
  | .running _, [] => []
  | .running failures, e :: rest =>
      .polled e :: (if pauses limit (.running failures) e.poll then [.paused delay] else []) ++
        acts limit delay (step limit (.running failures) e.poll) rest

def isStopped (d : Drive) : Bool := d = .stopped

end Drive

end Sluice.Mqtt
