import Sluice.Task.World

/-! # Schedules

Tasks take turns: one runs until it has to wait or is done, then the next that can go on. Time
stands still while anybody can; it moves on to the next end of a rest only when everybody waits. One
task may stand in the foreground: it is given its turn before the others whenever a round of them is
over.

Turns are served in the order in which tasks became able to go on, rests that end at one time in the
order in which they began, and tasks that paused in the reverse order of pausing.
-/

namespace Sluice

/-- How a task stands. -/
inductive TaskState (α : Type) where
  /-- It goes on when its turn comes. -/
  | ready (next : Work α)
  /-- It rests until a time or, if it has a ticket, an interruption. -/
  | resting (deadline : Nat) (ticket : Option Nat) (next : Bool → Work α)
  /-- It waits for the lock of its station. -/
  | inLine (next : Unit → Work α)
  /-- It is done. -/
  | finished (x : α)
  /-- It was stopped where it waited. -/
  | cancelled

/-- A task at a station. -/
structure Task (α : Type) where
  /-- The number of its station. -/
  place : Nat
  state : TaskState α

/-- Tasks, known by their place in the list, and the world that they work in. -/
structure Schedule (α : Type) where
  now : Nat := 0
  world : World := {}
  tasks : List (Task α) := []
  /-- Who can go on, in the order of turns. -/
  queue : List Nat := []
  /-- Who paused, the last one first. -/
  paused : List Nat := []
  /-- The ends of the rests under way, the earliest first. -/
  alarms : List (Nat × Nat) := []
  /-- The task that is not served from the queue. -/
  foreground : Option Nat := none
  /-- Whether the task in the foreground can go on. -/
  foregroundReady : Bool := false

namespace Schedule

variable {α : Type}

def onWorld (s : Schedule α) (f : World → World) : Schedule α := { s with world := f s.world }

def setState (s : Schedule α) (task : Nat) (state : TaskState α) : Schedule α :=
  { s with tasks := s.tasks.modify task fun t => { t with state } }

/-- Let a task go on when its turn comes. -/
def wake (s : Schedule α) (task : Nat) : Schedule α :=
  if s.foreground = some task then { s with foregroundReady := true }
  else if task ∈ s.queue then s
  else { s with queue := s.queue ++ [task] }

def wakeAll (s : Schedule α) (tasks : List Nat) : Schedule α := tasks.foldl wake s

/-- Put the end of a rest behind those that come no later. -/
def insertAlarm (alarm : Nat × Nat) : List (Nat × Nat) → List (Nat × Nat)
  | [] => [alarm]
  | other :: rest =>
      if alarm.1 < other.1 then alarm :: other :: rest else other :: insertAlarm alarm rest

def dropAlarm (s : Schedule α) (task : Nat) : Schedule α :=
  { s with alarms := s.alarms.filter (fun alarm => alarm.2 ≠ task) }

/-- Whether a task rests at a station and can be interrupted. -/
def restsAt (place : Nat) (t : Task α) : Bool :=
  match t.state with
  | .resting _ (some _) _ => t.place = place
  | _ => false

/-- The numbers of the tasks that an interruption of a station reaches. -/
def reachedBy (s : Schedule α) (place : Nat) : List Nat :=
  (List.range s.tasks.length).filter fun i => (s.tasks[i]?).any (restsAt place)

def interrupt (s : Schedule α) (place : Nat) : Schedule α :=
  (s.onWorld fun w => w.interrupt place).wakeAll (s.reachedBy place)

def shutDown (s : Schedule α) (place : Nat) : Schedule α :=
  (s.onWorld fun w => w.shutDown place).interrupt place

/-- Wake whoever holds the lock of a station now. -/
def wakeHolder (s : Schedule α) (place : Nat) : Schedule α :=
  match (s.world.station place).lock.holder with
  | none => s
  | some holder => s.wake holder

/-- Pass the lock of a station on. -/
def unlock (s : Schedule α) (place : Nat) : Schedule α :=
  (s.onWorld fun w => w.modifyLock place Lock.pass).wakeHolder place

def shutDownAsPlanned (s : Schedule α) : Schedule α :=
  match s.world.plans.shutDown with
  | none => s
  | some place =>
      (s.onWorld fun w => { w with plans := { w.plans with shutDown := none } }).shutDown place

/-- What becomes of a request: it is answered, or the task that asked waits. -/
inductive Served (α : Type) (r : Request) where
  | answered (a : r.Answer) (s : Schedule α)
  | waits (state : (r.Answer → Work α) → TaskState α) (s : Schedule α)

/-- Serve a request of a task at a station. -/
def serve (s : Schedule α) (task place : Nat) : (r : Request) → Served α r
  | .lookup name _ => .answered (s.world.bindings.resolve name) s
  | .call c =>
      let (reply, world) := s.world.call s.now c
      .answered reply { s with world }
  | .clock => .answered s.now s
  | .isShutDown => .answered (s.world.station place).signal.isShutDown s
  | .shutDown => .answered () (s.onWorld fun w => w.shutDown place)
  | .interrupt => .answered () (s.interrupt place)
  | .enlist => .answered (s.world.station place).signal.rounds s
  | .rest millis ticket =>
      if (s.world.station place).signal.endedSince ticket then .answered true s
      else if millis = 0 then .answered false s
      else
        .waits (.resting (s.now + millis) ticket)
          { s with alarms := insertAlarm (s.now + millis, task) s.alarms }
  | .pause => .waits (fun next => .ready (next ())) { s with paused := task :: s.paused }
  | .lock =>
      let s' := s.onWorld fun w => w.modifyLock place fun l => l.join task
      if (s'.world.station place).lock.holder = some task then .answered () s'
      else .waits .inLine s'
  | .unlock => .answered () (s.unlock place)
  | .manager => .answered (s.world.station place).manager s
  | .keep m =>
      .answered () (s.onWorld fun w => w.modifyStation place fun t => { t with manager := m })
  | .delayOf name => .answered (s.world.plans.delays.lookup name) s
  | .takeFailure name =>
      .answered (s.world.plans.failures.contains name : Bool)
        (s.onWorld fun w =>
          { w with plans := { w.plans with failures := w.plans.failures.filter (· ≠ name) } })
  | .record line => .answered () (s.onWorld fun w => { w with record := line :: w.record })
  | .shutDownAsPlanned => .answered () s.shutDownAsPlanned

/-- Carry on the script of a task until it waits or is done. -/
def carryOn (task place : Nat) : Work α → Schedule α → Schedule α
  | .done x, s => s.setState task (.finished x)
  | Script.ask r next, s =>
      match s.serve task place r with
      | .answered a s => carryOn task place (next a) s
      | .waits state s => s.setState task (state next)

/-- Give a task its turn; one that still has to wait does nothing. -/
def turn (s : Schedule α) (task : Nat) : Schedule α :=
  match s.tasks[task]? with
  | none => s
  | some t =>
      match t.state with
      | .ready next => carryOn task t.place next s
      | .resting deadline ticket next =>
          if (s.world.station t.place).signal.endedSince ticket then
            carryOn task t.place (next true) (s.dropAlarm task)
          else if deadline ≤ s.now then carryOn task t.place (next false) (s.dropAlarm task)
          else s
      | .inLine next =>
          if (s.world.station t.place).lock.holder = some task then
            carryOn task t.place (next ()) s
          else s
      | .finished _ => s
      | .cancelled => s

/-- Stop a task where it waits: it gives up its lock, and nothing else is undone. -/
def cancel (s : Schedule α) (task : Nat) : Schedule α :=
  match s.tasks[task]? with
  | none => s
  | some t =>
      let s := (s.dropAlarm task).setState task .cancelled
      let s := { s with
        queue := s.queue.filter (· ≠ task)
        paused := s.paused.filter (· ≠ task) }
      if (s.world.station t.place).lock.holder = some task then s.unlock t.place
      else s.onWorld fun w => w.modifyLock t.place fun l => l.leave task

def isOver (s : Schedule α) (task : Nat) : Bool :=
  match (s.tasks[task]?).map Task.state with
  | some (.finished _) => true
  | some .cancelled => true
  | none => true
  | _ => false

def result? (s : Schedule α) (task : Nat) : Option α :=
  match (s.tasks[task]?).map Task.state with
  | some (.finished x) => some x
  | _ => none

/-- Serve the queue until it is empty, in at most `fuel` turns. -/
def serveQueue : (fuel : Nat) → Schedule α → Schedule α
  | 0, s => s
  | fuel + 1, s =>
      match s.queue with
      | [] => s
      | task :: rest => serveQueue fuel (turn { s with queue := rest } task)

def wakePaused (s : Schedule α) : Schedule α := wakeAll { s with paused := [] } s.paused

/-- Let everybody run who can without time passing, in at most `fuel` rounds. -/
def settle : (fuel : Nat) → Schedule α → Schedule α
  | 0, s => s
  | fuel + 1, s =>
      let s := s.serveQueue fuel
      if s.paused.isEmpty then s else settle fuel s.wakePaused

/-- The next time at which a rest or the time of the foreground task ends. -/
def nextAlarm (s : Schedule α) (limit : Option Nat) : Option Nat :=
  match s.alarms, limit with
  | [], limit => limit
  | alarm :: _, none => some alarm.1
  | alarm :: _, some limit => some (min alarm.1 limit)

/-- Let time pass, and wake those whose rest is over. -/
def passTo (s : Schedule α) (time : Nat) : Schedule α :=
  wakeAll { s with now := max s.now time }
    ((s.alarms.filter (fun alarm => alarm.1 ≤ time)).map Prod.snd)

/-- Let everybody run, and time pass when nobody can, until a task is over; if it stands in the
foreground it is cancelled when `limit` comes. At most `fuel` rounds. -/
def runUntil (task : Nat) (limit : Option Nat) : (fuel : Nat) → Schedule α → Schedule α
  | 0, s => s
  | fuel + 1, s =>
      let s := if s.foregroundReady then turn { s with foregroundReady := false } task else s
      if s.isOver task then s
      else if limit.any (· ≤ s.now) then s.cancel task
      else
        let s := s.serveQueue fuel
        if !s.paused.isEmpty then runUntil task limit fuel s.wakePaused
        else if s.foregroundReady || s.isOver task then runUntil task limit fuel s
        else
          match s.nextAlarm limit with
          | none => s
          | some time => runUntil task limit fuel (s.passTo time)

def add (s : Schedule α) (place : Nat) (work : Work α) : Schedule α :=
  { s with tasks := s.tasks ++ [⟨place, .ready work⟩] }

/-- Start a task in the background; the answer is its number. -/
def spawn (s : Schedule α) (place : Nat) (work : Work α) : Nat × Schedule α :=
  (s.tasks.length, (s.add place work).wake s.tasks.length)

/-- Carry out a script in the foreground, for at most a time. -/
def perform (s : Schedule α) (fuel place : Nat) (work : Work α) (within : Option Nat) :
    Option α × Schedule α :=
  let task := s.tasks.length
  let s := { s.add place work with foreground := some task, foregroundReady := true }
  let s := runUntil task (within.map (s.now + ·)) fuel s
  (s.result? task, { s with foreground := none, foregroundReady := false })

/-- Wait until a task in the background is over. -/
def join (s : Schedule α) (fuel task : Nat) : Schedule α := runUntil task none fuel s

def addStation (s : Schedule α) : Nat × Schedule α :=
  (s.world.stations.length, s.onWorld fun w => { w with stations := w.stations ++ [{}] })

end Schedule

end Sluice
