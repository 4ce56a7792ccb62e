import Sluice.Directory.Folder
import Sluice.Rehearsal.Parts
import Sluice.Rehearsal.Recorded
import Sluice.Router.Basic
import Sluice.Task.Schedule

/-! # Rehearsals

On a stage there are one broker, one directory, and whatever is set up by name: raw handles,
controllers, managers, routers, and tasks in the background. A rehearsal goes step by step. A step
in the foreground lets time pass as it needs; after every step all tasks run until each of them
waits. What goes through the directory is recorded; raw handles are not.
-/

namespace Sluice

/-- What a task comes to. -/
inductive Outcome where
  /-- It had nothing to return. -/
  | done
  | routed (r : Except RouterError Unit)
  | visited (r : Except RouterError Bool)
  | admission (r : Except AdmissionError Admission)
  /-- The router was closed. -/
  | closed
  | state (s : LifecycleState)
  | managed (r : Except ConfigurationError Unit)
  | called (r : Except BrokerError Unit)
  | found (r : Except NamingError Entry)

/-- What became of a step that can be put into the background or cut short. -/
inductive Turnout where
  /-- It was started in the background. -/
  | spawned
  /-- It was stopped before it was done. -/
  | cancelled
  | outcome (o : Outcome)

/-- An admission controller. -/
structure Controller where
  place : Nat
  config : AdmissionConfig

/-- A router at its station. -/
structure PlacedRouter where
  place : Nat
  router : Router

/-- A stage and what has been set up on it. -/
structure Stage where
  schedule : Schedule Outcome := {}
  /-- The properties of the directory when none are given. -/
  defaults : Properties := Keyed.empty
  connections : Keyed (Handle .connection) := Keyed.empty
  sessions : Keyed (Handle .session) := Keyed.empty
  producers : Keyed (Handle .producer) := Keyed.empty
  browsers : Keyed (Handle .browser) := Keyed.empty
  controllers : Keyed Controller := Keyed.empty
  /-- The stations of the managers. -/
  managers : Keyed Nat := Keyed.empty
  routers : Keyed PlacedRouter := Keyed.empty
  tasks : Keyed Nat := Keyed.empty

abbrev Rehearsal := StateM Stage

namespace Stage

/-- How many turns a step may take; no rehearsal comes near it. -/
def patience : Nat := Nat.pow 2 40

/-! ### The broker and the directory -/

def onWorld (f : World → World) : Rehearsal Unit :=
  modify fun s => { s with schedule := s.schedule.onWorld f }

def onBroker (f : Broker → Broker) : Rehearsal Unit :=
  onWorld fun w => { w with broker := f w.broker }

def withBroker {α : Type} (f : Broker → Nat → α × Broker) : Rehearsal α := do
  let s ← get
  let (x, broker) := f s.schedule.world.broker s.schedule.now
  onBroker fun _ => broker
  return x

/-- Make a destination known; return whether it is a queue. -/
def declare (d : Destination) : Rehearsal Bool := do
  onBroker fun b => b.declare d
  return d.isQueue

def inject (d : Destination) (m : Message) : Rehearsal Unit :=
  withBroker fun b now => ((), b.inject now d m)

def fill (d : Destination) (count : Nat) : Rehearsal Unit :=
  withBroker fun b now =>
    ((), (List.range count).foldl
      (fun b i => b.inject now d { body := .text ("fill-" ++ toString i) }) b)

def depth (name : String) : Rehearsal Nat := withBroker fun b now => b.depth now name

def receive (name : String) : Rehearsal (Option Parcel) :=
  withBroker fun b now => b.receive now name

def drain (name : String) : Rehearsal (List Parcel) := withBroker fun b now => b.drain now name

def openHandles : Rehearsal OpenHandles := do
  return (← get).schedule.world.broker.openHandles

def bind (name : String) (entry : Entry) : Rehearsal Unit :=
  onWorld fun w => { w with bindings := w.bindings.insert name entry }

/-- Release a name; return what it was bound to. -/
def unbind (name : String) : Rehearsal (Option Entry) := do
  let entry := (← get).schedule.world.bindings.get? name
  onWorld fun w => { w with bindings := w.bindings.erase name }
  return entry

/-! ### Raw handles -/

/-- Make a call at once and without a record. -/
def call (c : Call) : Rehearsal c.Reply := withBroker fun b now => b.perform now c

/-- Open a connection and keep its handle under a name. -/
def connect (id : String) (credentials : Option Credentials) :
    Rehearsal (Except BrokerError Unit) := do
  let reply : Except BrokerError (Handle .connection) ← call (.createConnection credentials)
  match reply with
  | .error e => return .error e
  | .ok handle =>
      modify fun s => { s with connections := s.connections.insert id handle }
      return .ok ()

/-- Open a session and keep its handle under a name; return whether it is transacted. -/
def openSession (id connection : String) (transacted : Bool) :
    Rehearsal (Except BrokerError Bool) := do
  let c := ((← get).connections.get? connection).getD ⟨0⟩
  let reply : Except BrokerError (Handle .session) ← call (.createSession c transacted .auto)
  match reply with
  | .error e => return .error e
  | .ok handle =>
      modify fun s => { s with sessions := s.sessions.insert id handle }
      return .ok ((← get).schedule.world.broker.pending handle).isSome

/-- Open a producer and keep its handle under a name. -/
def openProducer (id session : String) (d : Destination) :
    Rehearsal (Except BrokerError Unit) := do
  let s := ((← get).sessions.get? session).getD ⟨0⟩
  let reply : Except BrokerError (Handle .producer) ← call (.createProducer s d)
  match reply with
  | .error e => return .error e
  | .ok handle =>
      modify fun s => { s with producers := s.producers.insert id handle }
      return .ok ()

/-- Open a browser and keep its handle under a name; return whether there was one to open. -/
def openBrowser (id session : String) (d : Destination) :
    Rehearsal (Except BrokerError Bool) := do
  let s := ((← get).sessions.get? session).getD ⟨0⟩
  let reply : Except BrokerError (Option (Handle .browser)) ← call (.createBrowser s d)
  match reply with
  | .error e => return .error e
  | .ok none => return .ok false
  | .ok (some handle) =>
      modify fun s => { s with browsers := s.browsers.insert id handle }
      return .ok true

def connection (id : String) : Rehearsal (Handle .connection) := do
  return ((← get).connections.get? id).getD ⟨0⟩

def session (id : String) : Rehearsal (Handle .session) := do
  return ((← get).sessions.get? id).getD ⟨0⟩

def producer (id : String) : Rehearsal (Handle .producer) := do
  return ((← get).producers.get? id).getD ⟨0⟩

def browser (id : String) : Rehearsal (Handle .browser) := do
  return ((← get).browsers.get? id).getD ⟨0⟩

/-! ### Work in the foreground and in the background -/

/-- Carry out work at a station: in the background under a name, or in the foreground for at most a
time. -/
def carryOut (place : Nat) (work : Work Outcome) (background : Option String := none)
    (within : Option Nat := none) : Rehearsal Turnout := do
  let s ← get
  match background with
  | some id =>
      let (task, schedule) := s.schedule.spawn place work
      set { s with schedule, tasks := s.tasks.insert id task }
      return .spawned
  | none =>
      let (outcome, schedule) := s.schedule.perform patience place work within
      set { s with schedule }
      return (outcome.map Turnout.outcome).getD .cancelled

def sleep (millis : Nat) : Rehearsal Unit := do
  let _ ← carryOut 0 (do Work.rest millis; return .done)

def lookup (name : String) : Rehearsal Turnout := do
  let defaults := (← get).defaults
  carryOut 0 (do return .found (← Work.recordedLookup name defaults))

def task (id : String) : Rehearsal Nat := do
  let s ← get
  return (s.tasks.get? id).getD s.schedule.tasks.length

def turnout (task : Nat) : Rehearsal Turnout := do
  let s ← get
  return ((s.schedule.result? task).map Turnout.outcome).getD .cancelled

def isFinished (id : String) : Rehearsal Bool := do
  let t ← task id
  return (← get).schedule.isOver t

def join (id : String) : Rehearsal Turnout := do
  let t ← task id
  modify fun s => { s with schedule := s.schedule.join patience t }
  turnout t

/-- Stop a task, unless it is over. -/
def cancel (id : String) : Rehearsal Turnout := do
  let t ← task id
  modify fun s =>
    if s.schedule.isOver t then s else { s with schedule := s.schedule.cancel t }
  turnout t

def addStation : Rehearsal Nat := do
  let s ← get
  let (place, schedule) := s.schedule.addStation
  set { s with schedule }
  return place

/-! ### Controllers -/

/-- Set up a controller; return whether it is enabled. -/
def addController (id : String) (config : AdmissionConfig) : Rehearsal Bool := do
  let place ← addStation
  modify fun s => { s with controllers := s.controllers.insert id ⟨place, config⟩ }
  return config.isEnabled

/-- Wait until a destination can take a message. -/
def awaitCapacity (controller session : String) (d : Destination) (background : Option String) :
    Rehearsal Turnout := do
  let handle ← Stage.session session
  let c := ((← get).controllers.get? controller).getD ⟨0, {}⟩
  carryOut c.place (do return .admission (← c.config.awaitCapacity handle d)) background

/-- Who can be interrupted and shut down. -/
inductive Interruptible where
  | controller (id : String)
  | router (id : String)

def placeOf : Interruptible → Rehearsal Nat
  | .controller id => do
      let s ← get
      return ((s.controllers.get? id).map Controller.place).getD 0
  | .router id => do
      let s ← get
      return ((s.routers.get? id).map PlacedRouter.place).getD 0

def isShutDown (target : Interruptible) : Rehearsal Bool := do
  let place ← placeOf target
  return ((← get).schedule.world.station place).signal.isShutDown

def interrupt (target : Interruptible) : Rehearsal Bool := do
  let place ← placeOf target
  modify fun s => { s with schedule := s.schedule.interrupt place }
  isShutDown target

/-- End the waits under way, and all later ones before they begin. -/
def shutDown (target : Interruptible) : Rehearsal Bool := do
  let place ← placeOf target
  modify fun s => { s with schedule := s.schedule.shutDown place }
  isShutDown target

/-! ### Managers -/

def addManager (id : String) : Rehearsal LifecycleState := do
  let place ← addStation
  modify fun s => { s with managers := s.managers.insert id place }
  return ((← get).schedule.world.station place).manager.state

def managerPlace (id : String) : Rehearsal Nat := do
  return ((← get).managers.get? id).getD 0

def manager (id : String) : Rehearsal Manager := do
  let place ← managerPlace id
  return ((← get).schedule.world.station place).manager

/-- Acquire the resources of a manager, by a directory that has default properties or none. -/
def startManager (id : String) (config : Config) (bare : Bool) (within : Option Nat) :
    Rehearsal Turnout := do
  let place ← managerPlace id
  let s ← get
  let defaults := if bare then Keyed.empty else s.defaults
  let files := Folder.read Keyed.empty
  carryOut place (do return .managed (← (Manager.start config files defaults).recorded)) none within

def closeManager (id : String) (within : Option Nat) : Rehearsal Turnout := do
  let place ← managerPlace id
  carryOut place (do Manager.close.recorded; return .done) none within

/-- Make a call on the connection of a manager that is ready. -/
def callConnection (id : String) (c : CallName) : Rehearsal (Option Turnout) := do
  match (← manager id).resources with
  | none => return none
  | some held =>
      let made : Work (Except BrokerError Unit) :=
        match c with
        | .startConnection => Work.recordedCall (.startConnection held.connection)
        | .stopConnection => Work.recordedCall (.stopConnection held.connection)
        | _ => Work.recordedCall (.closeConnection held.connection)
      return some (← carryOut (← managerPlace id) (do return .called (← made)))

/-- Forget a manager without closing it; return whether there was one. -/
def dropManager (id : String) : Rehearsal Bool := do
  let known := (← get).managers.contains id
  modify fun s => { s with managers := s.managers.erase id }
  return known

/-! ### Routers -/

def addRouter (id : String) (router : Router) : Rehearsal Unit := do
  let place ← addStation
  modify fun s => { s with routers := s.routers.insert id ⟨place, router⟩ }

def router? (id : String) : Rehearsal (Option Router) := do
  return ((← get).routers.get? id).map PlacedRouter.router

/-- Carry out work of the router kept under a name, recorded. -/
def onRouter (id : String) (work : Router → Work Outcome) (background : Option String := none) :
    Rehearsal Turnout := do
  let s ← get
  match s.routers.get? id with
  | none => return .cancelled
  | some r => carryOut r.place (work r.router).recorded background

def startRouter (id : String) (background : Option String) : Rehearsal Turnout := do
  let defaults := (← get).defaults
  onRouter id (fun r => do return .routed (← r.start (Folder.read Keyed.empty) defaults)) background

def publish (id : String) (values : Context) (background : Option String) : Rehearsal Turnout :=
  onRouter id (fun r => do return .routed (← r.publish values)) background

/-- Publish a value if the phase is the router's. -/
def visit (id : String) (phase : ExecutionPhase) (values : Context) (background : Option String) :
    Rehearsal Turnout :=
  onRouter id (fun r => do return .visited (← r.visit phase values)) background

def closeRouter (id : String) (background : Option String) : Rehearsal Turnout :=
  onRouter id (fun _ => do Router.close; return .closed) background

def routerState (id : String) : Rehearsal Turnout :=
  onRouter id (fun _ => do return .state (← Router.state))

/-! ### Plans and reports -/

/-- Hold up all later calls of a name. -/
def planDelay (c : CallName) (millis : Nat) : Rehearsal Unit :=
  onWorld fun w => { w with plans := { w.plans with delays := (c, millis) :: w.plans.delays } }

/-- Make the next call of each of some names fail. -/
def planFailures (cs : List CallName) : Rehearsal Unit :=
  onWorld fun w => { w with plans := { w.plans with failures := cs ++ w.plans.failures } }

/-- Shut a router's station down when the next browser was opened. -/
def planShutDown (router : String) : Rehearsal Unit := do
  let place ← placeOf (.router router)
  onWorld fun w => { w with plans := { w.plans with shutDown := some place } }

/-- What is to be told after a step. -/
structure Report where
  time : Nat
  openHandles : OpenHandles
  /-- The lines recorded since the last report. -/
  record : List String

/-- Let all tasks run until each of them waits, and report. -/
def report : Rehearsal Report := do
  modify fun s => { s with schedule := s.schedule.settle patience }
  let s := (← get).schedule
  onWorld fun w => { w with record := [] }
  return ⟨s.now, s.world.broker.openHandles, s.world.record.reverse⟩

end Stage

end Sluice
