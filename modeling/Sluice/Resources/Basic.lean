import Sluice.Broker.Memory
import Sluice.Config.Basic

/-! # The broker resources of a router

A router holds a connection, a session and a producer, or nothing. `Manager` keeps them together
with the state of their life; they may be used only while that state is `ready`.
-/

namespace Sluice

/-- What is held while a router is ready. -/
structure Resources where
  connection : Handle .connection
  session : Handle .session
  producer : Handle .producer
  /-- The destination that the configured name was resolved to. -/
  destination : Destination
  /-- Whether the session is transacted. -/
  transacted : Bool
deriving DecidableEq

/-- The resources of a router and the state of their life. -/
structure Manager where
  state : LifecycleState := .uninitialized
  held : Option Resources := none
deriving DecidableEq

def Manager.resources (m : Manager) : Option Resources :=
  match m.state with
  | .ready => m.held
  | _ => none

end Sluice
