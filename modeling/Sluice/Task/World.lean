import Sluice.Task.Request

/-! # The world of tasks

A broker, a directory, and stations, which are known by their place in a list. A lock is passed on
to whoever has waited for it longest; a signal counts the interruptions, so that a ticket tells
which of them came after it was taken.
-/

namespace Sluice

/-- A lock that is granted in the order of asking, to tasks by number. -/
structure Lock where
  holder : Option Nat := none
  /-- Who waits for it, the longest first. -/
  line : List Nat := []
deriving DecidableEq, Repr

namespace Lock

/-- Ask for a lock: whoever finds it free holds it, everybody else joins the line. -/
def join (l : Lock) (task : Nat) : Lock :=
  match l.holder with
  | none => { l with holder := some task }
  | some _ => { l with line := l.line ++ [task] }

/-- Pass a lock on to whoever has waited longest. -/
def pass (l : Lock) : Lock := { holder := l.line.head?, line := l.line.tail }

def leave (l : Lock) (task : Nat) : Lock := { l with line := l.line.filter (· ≠ task) }

end Lock

/-- What ends waits at a station. -/
structure Signal where
  isShutDown : Bool := false
  /-- How many interruptions there have been; also the ticket that is given out. -/
  rounds : Nat := 0
deriving DecidableEq, Repr

namespace Signal

/-- Whether there was an interruption since a ticket was taken. -/
def endedSince (s : Signal) (ticket : Option Nat) : Bool := ticket.any (· < s.rounds)

end Signal

/-- A place of work. -/
structure Station where
  manager : Manager := {}
  signal : Signal := {}
  lock : Lock := {}
deriving DecidableEq

/-- What is to happen to calls in a rehearsal. -/
structure Plans where
  /-- For how long calls are held up; the first entry of a name counts. -/
  delays : List (CallName × Nat) := []
  /-- The calls of which the next is to fail. -/
  failures : List CallName := []
  /-- The station to shut down at the next opportunity. -/
  shutDown : Option Nat := none
deriving Repr

/-- The world of tasks. -/
structure World where
  broker : Broker := {}
  bindings : Bindings := Keyed.empty
  stations : List Station := []
  plans : Plans := {}
  /-- The recorded lines, the last one first. -/
  record : List String := []

namespace World

def station (w : World) (place : Nat) : Station := (w.stations[place]?).getD {}

def modifyStation (w : World) (place : Nat) (f : Station → Station) : World :=
  { w with stations := w.stations.modify place f }

def modifySignal (w : World) (place : Nat) (f : Signal → Signal) : World :=
  w.modifyStation place fun s => { s with signal := f s.signal }

def modifyLock (w : World) (place : Nat) (f : Lock → Lock) : World :=
  w.modifyStation place fun s => { s with lock := f s.lock }

def shutDown (w : World) (place : Nat) : World :=
  w.modifySignal place fun s => { s with isShutDown := true }

def interrupt (w : World) (place : Nat) : World :=
  w.modifySignal place fun s => { s with rounds := s.rounds + 1 }

def call (w : World) (now : Nat) (c : Call) : c.Reply × World :=
  let (reply, broker) := w.broker.perform now c
  (reply, { w with broker })

end World

end Sluice
