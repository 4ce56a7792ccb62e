import Sluice.Broker.Call
import Sluice.Directory.Naming
import Sluice.Resources.Basic
import Sluice.Script

/-! # What a task can ask for

A task works at a station: a resource manager behind a lock that is granted in the order of asking,
and a signal that ends waits. A task asks the broker and the directory, reads the clock, works with
its station, or rests. All requests but `rest`, `pause` and `lock` are answered at once.

The last four requests serve rehearsals, in which calls are held up, made to fail, and recorded.
-/

namespace Sluice

/-- The calls that a rehearsal can hold up or make fail. -/
inductive CallName where
  | lookup
  | startConnection
  | stopConnection
  | closeConnection
  | commit
  | rollback
  | closeSession
  | send
  | closeProducer
  | closeBrowser
deriving DecidableEq, Repr

namespace CallName

def name : CallName → String
  | .lookup => "lookup"
  | .startConnection => "connection.start"
  | .stopConnection => "connection.stop"
  | .closeConnection => "connection.close"
  | .commit => "session.commit"
  | .rollback => "session.rollback"
  | .closeSession => "session.close"
  | .send => "producer.send"
  | .closeProducer => "producer.close"
  | .closeBrowser => "browser.close"

def all : List CallName :=
  [.lookup, .startConnection, .stopConnection, .closeConnection, .commit, .rollback,
    .closeSession, .send, .closeProducer, .closeBrowser]

end CallName

/-- What a task can ask for. -/
inductive Request where
  /-- What a name is bound to. -/
  | lookup (name : String) (properties : Properties)
  /-- The reply of the broker to a call. -/
  | call (c : Call)
  /-- The time. -/
  | clock
  /-- Whether the station was shut down. -/
  | isShutDown
  /-- Shut the station down. Rests that are under way are not ended. -/
  | shutDown
  /-- End the rests under way at the station. -/
  | interrupt
  /-- A ticket, with which rests are ended by every later interruption. -/
  | enlist
  /-- Rest; the answer is whether an interruption ended the rest. -/
  | rest (millis : Nat) (ticket : Option Nat)
  /-- Let everybody else go on first. -/
  | pause
  /-- Wait for the lock of the station. -/
  | lock
  /-- Give the lock of the station back. -/
  | unlock
  /-- The manager of the station. -/
  | manager
  /-- Put another manager in its place. -/
  | keep (m : Manager)
  /-- For how long calls of a name are held up; none if they are not. -/
  | delayOf (name : CallName)
  /-- Whether the next call of a name is to fail, as planned; the plan is used up. -/
  | takeFailure (name : CallName)
  /-- Record a line. -/
  | record (line : String)
  /-- Shut down the station for which this is planned; the plan is used up. -/
  | shutDownAsPlanned

def Request.Answer : Request → Type
  | .lookup _ _ => Except NamingError Entry
  | .call c => c.Reply
  | .clock => Nat
  | .isShutDown => Bool
  | .enlist => Nat
  | .rest _ _ => Bool
  | .manager => Manager
  | .delayOf _ => Option Nat
  | .takeFailure _ => Bool
  | _ => Unit

abbrev Work := Script Request Request.Answer

namespace Work

def ask (r : Request) : Work r.Answer := Script.request r

def lookup (name : String) (properties : Properties) : Work (Except NamingError Entry) :=
  ask (.lookup name properties)

def call (c : Call) : Work c.Reply := ask (.call c)

def clock : Work Nat := ask .clock

def isShutDown : Work Bool := ask .isShutDown

def shutDown : Work Unit := ask .shutDown

/-- End the rests under way at the station. -/
def interrupt : Work Unit := ask .interrupt

/-- Take a ticket for rests that interruptions end. -/
def enlist : Work Nat := ask .enlist

/-- Rest, unless an interruption comes after the ticket was taken; return whether one came. -/
def restUnlessInterrupted (millis ticket : Nat) : Work Bool := ask (.rest millis (some ticket))

def rest (millis : Nat) : Work Unit := do
  let _ ← ask (.rest millis none)
  return ()

def pause : Work Unit := ask .pause

def manager : Work Manager := ask .manager

def keep (m : Manager) : Work Unit := ask (.keep m)

/-- Work while nobody else holds the lock of the station. -/
def locked {α : Type} (work : Work α) : Work α := do
  ask .lock
  let x ← work
  ask .unlock
  return x

end Work

end Sluice
