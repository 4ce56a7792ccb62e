import Sluice.Proofs.Task.Terms
import Sluice.Task.Schedule

/-! # Scenes at a station

Tasks work at one station, a request at a time and in any order: a task that can go on asks one
request, which is served as a schedule serves it. In between anybody else uses the broker through
handles that were not given to the station, binds names, lets time pass, or raises the signal; and a
task may be stopped where it waits. Every step is noted with what it changed.
-/

namespace Sluice

variable {J α : Type}

namespace Schedule

theorem wake_eq (s : Schedule α) (i : Nat) :
    (s.wake i).world = s.world ∧ (s.wake i).tasks = s.tasks ∧ (s.wake i).now = s.now := by
  unfold wake
  split
  · exact ⟨rfl, rfl, rfl⟩
  · split <;> exact ⟨rfl, rfl, rfl⟩

theorem wakeAll_eq (s : Schedule α) (tasks : List Nat) :
    (s.wakeAll tasks).world = s.world ∧ (s.wakeAll tasks).tasks = s.tasks ∧
      (s.wakeAll tasks).now = s.now := by
  induction tasks generalizing s with
  | nil => exact ⟨rfl, rfl, rfl⟩
  | cons i rest ih =>
      obtain ⟨hworld, htasks, hnow⟩ := s.wake_eq i
      obtain ⟨hworld', htasks', hnow'⟩ := ih (s.wake i)
      exact ⟨hworld'.trans hworld, htasks'.trans htasks, hnow'.trans hnow⟩

theorem interrupt_eq (s : Schedule α) (place : Nat) :
    (s.interrupt place).world = s.world.interrupt place ∧ (s.interrupt place).tasks = s.tasks ∧
      (s.interrupt place).now = s.now :=
  wakeAll_eq _ _

theorem shutDown_eq (s : Schedule α) (place : Nat) :
    (s.shutDown place).world = (s.world.shutDown place).interrupt place ∧
      (s.shutDown place).tasks = s.tasks ∧ (s.shutDown place).now = s.now :=
  interrupt_eq _ _

theorem unlock_eq (s : Schedule α) (place : Nat) :
    (s.unlock place).world = s.world.modifyLock place Lock.pass ∧
      (s.unlock place).tasks = s.tasks ∧ (s.unlock place).now = s.now := by
  unfold unlock wakeHolder
  split
  · exact ⟨rfl, rfl, rfl⟩
  · exact wake_eq _ _

theorem cancel_eq {s : Schedule α} {i : Nat} {t : Task α} (ht : s.tasks[i]? = some t) :
    (s.cancel i).tasks = s.tasks.modify i (fun t => { t with state := .cancelled }) ∧
      (s.cancel i).now = s.now ∧
      (s.cancel i).world = s.world.modifyLock t.place fun l =>
        if (s.world.station t.place).lock.holder = some i then l.pass else l.leave i := by
  unfold cancel
  rw [ht]
  by_cases hholder : (s.world.station t.place).lock.holder = some i
  · simp only [if_pos hholder]
    rw [if_pos (by exact hholder)]
    obtain ⟨hworld, htasks, hnow⟩ := unlock_eq
      { (s.dropAlarm i).setState i .cancelled with
        queue := s.queue.filter (· ≠ i)
        paused := s.paused.filter (· ≠ i) } t.place
    exact ⟨htasks, hnow, hworld⟩
  · simp only [if_neg hholder]
    rw [if_neg (by exact hholder)]
    exact ⟨rfl, rfl, rfl⟩

section Rests

variable {s : Schedule α} {ticket : Option Nat} (i place : Nat)

theorem serve_rest_early (millis : Nat) (h : (s.world.station place).signal.endedSince ticket) :
    s.serve i place (.rest millis ticket) = .answered true s :=
  if_pos h

theorem serve_rest_zero (h : ¬ (s.world.station place).signal.endedSince ticket) :
    s.serve i place (.rest 0 ticket) = .answered false s :=
  (if_neg h).trans (if_pos rfl)

theorem serve_rest_waits {millis : Nat} (h : ¬ (s.world.station place).signal.endedSince ticket)
    (hmillis : millis ≠ 0) :
    s.serve i place (.rest millis ticket) = .waits (.resting (s.now + millis) ticket)
      { s with alarms := insertAlarm (s.now + millis, i) s.alarms } :=
  (if_neg h).trans (if_neg hmillis)

end Rests

end Schedule

namespace World

theorem station_modifyStation {w : World} {place : Nat} (h : place < w.stations.length)
    (f : Station → Station) : (w.modifyStation place f).station place = f (w.station place) := by
  simp [station, modifyStation, h]

theorem length_modifyStation (w : World) (place : Nat) (f : Station → Station) :
    (w.modifyStation place f).stations.length = w.stations.length :=
  List.length_modify _ _ _

end World

/-- Tasks of given jobs at a station, and what has happened so far. -/
structure Scene (J α : Type) where
  schedule : Schedule α := { world := { stations := [{}] } }
  /-- What each task was begun for. -/
  jobs : List J := []
  ours : List AnyHandle := []
  past : List Event := []

/-- What happens next. -/
inductive Choice (J : Type) where
  /-- A task is begun. -/
  | begin (job : J)
  /-- A task asks its next request, or gets the answer for which it waits. -/
  | act (task : Nat)
  /-- A task is stopped. -/
  | cancel (task : Nat)
  /-- Somebody else uses the broker. -/
  | operate (o : Operation)
  | pass (millis : Nat)
  | bind (bindings : Bindings)
  | interrupt
  | shutDown

/-- The handles that an answer gives out. -/
def Request.opened : (r : Request) → r.Answer → List AnyHandle
  | .call c, reply => c.opened reply
  | _, _ => []

namespace Scene

/-- The station at which the tasks work. -/
def place : Nat := 0

def station (s : Scene J α) : Station := s.schedule.world.station place

/-- The broker, and the manager of the station. -/
def groundOf (s : Schedule α) : Ground := ⟨s.world.broker, (s.world.station place).manager⟩

def moment (s : Scene J α) : Moment where
  toGround := groundOf s.schedule
  now := s.schedule.now
  signal := s.station.signal
  ours := s.ours
  past := s.past

/-- A task was answered and can go on. -/
def answered (s : Scene J α) (i : Nat) (r : Request) (a : r.Answer) (schedule : Schedule α)
    (next : r.Answer → Work α) : Scene J α :=
  { s with
    schedule := schedule.setState i (.ready (next a))
    ours := s.ours ++ r.opened a
    past := s.past ++
      [⟨some i, r.deed a, s.schedule.now, groundOf s.schedule, groundOf schedule⟩] }

/-- A task asks a request. -/
def ask (s : Scene J α) (i : Nat) (r : Request) (next : r.Answer → Work α) : Scene J α :=
  match s.schedule.serve i place r with
  | .answered a schedule => s.answered i r a schedule next
  | .waits state schedule => { s with schedule := schedule.setState i (state next) }

theorem ask_of_answered {s : Scene J α} {i : Nat} {r : Request} {a : r.Answer} {t : Schedule α}
    (h : s.schedule.serve i place r = .answered a t) (next : r.Answer → Work α) :
    s.ask i r next = s.answered i r a t next := by
  rw [ask, h]

theorem ask_of_waits {s : Scene J α} {i : Nat} {r : Request}
    {state : (r.Answer → Work α) → TaskState α} {t : Schedule α}
    (h : s.schedule.serve i place r = .waits state t) (next : r.Answer → Work α) :
    s.ask i r next = { s with schedule := t.setState i (state next) } := by
  rw [ask, h]

/-- A task takes one step, if it can. -/
def act (s : Scene J α) (i : Nat) : Scene J α :=
  match (s.schedule.tasks[i]?).map Task.state with
  | some (.ready (.done x)) => { s with schedule := s.schedule.setState i (.finished x) }
  | some (.ready (Script.ask r next)) => s.ask i r next
  | some (.resting deadline ticket next) =>
      if s.station.signal.endedSince ticket then
        s.answered i (.rest 0 ticket) true (s.schedule.dropAlarm i) next
      else if deadline ≤ s.schedule.now then
        s.answered i (.rest 0 ticket) false (s.schedule.dropAlarm i) next
      else s
  | some (.inLine next) =>
      if s.station.lock.holder = some i then s.answered i .lock () s.schedule next else s
  | _ => s

/-- Whether a task may be stopped: it waits, or it has nothing to do with the lock. -/
def mayStop (s : Scene J α) (i : Nat) : Bool :=
  match (s.schedule.tasks[i]?).map Task.state with
  | some (.ready _) => s.station.lock.holder ≠ some i
  | some (.resting _ _ _) => true
  | some (.inLine _) => true
  | _ => false

/-- Somebody else uses the broker. -/
def operate (s : Scene J α) (o : Operation) : Scene J α :=
  let schedule := s.schedule.onWorld fun w =>
    { w with broker := (w.broker.operate s.schedule.now o).2 }
  { s with
    schedule
    past := s.past ++
      [⟨none, .operated o, s.schedule.now, groundOf s.schedule, groundOf schedule⟩] }

/-- What becomes of a scene; who may not do what is chosen does nothing. -/
def step (work : J → Work α) (s : Scene J α) : Choice J → Scene J α
  | .begin job => { s with schedule := s.schedule.add place (work job), jobs := s.jobs ++ [job] }
  | .act i => s.act i
  | .cancel i => if s.mayStop i then { s with schedule := s.schedule.cancel i } else s
  | .operate o => if ∀ h ∈ o.uses, h ∉ s.ours then s.operate o else s
  | .pass millis => { s with schedule := { s.schedule with now := s.schedule.now + millis } }
  | .bind bindings => { s with schedule := s.schedule.onWorld fun w => { w with bindings } }
  | .interrupt => { s with schedule := s.schedule.interrupt place }
  | .shutDown => { s with schedule := s.schedule.shutDown place }

/-- The scene after choices. -/
def run (work : J → Work α) (s : Scene J α) (choices : List (Choice J)) : Scene J α :=
  choices.foldl (step work) s

/-- All tasks are done or were stopped. -/
def isIdle (s : Scene J α) : Bool := s.schedule.tasks.all fun t => match t.state with
  | .finished _ => true
  | .cancelled => true
  | _ => false

/-- Nobody is stopped who may not be, and whoever may be was begun. -/
theorem step_cancel (work : J → Work α) (s : Scene J α) (i : Nat) :
    s.step work (.cancel i) = s ∨
      ∃ t, s.schedule.tasks[i]? = some t ∧ s.mayStop i = true ∧
        s.step work (.cancel i) = { s with schedule := s.schedule.cancel i } := by
  simp only [step]
  split
  next hmay =>
    cases ht : s.schedule.tasks[i]? with
    | none => simp [mayStop, ht] at hmay
    | some t => exact .inr ⟨t, rfl, hmay, rfl⟩
  next => exact .inl rfl

/-- What a request that is answered at once comes to: what it could come to among others. -/
structure Serves (s : Scene J α) (i : Nat) (r : Request) (a : r.Answer) (t : Schedule α) :
    Prop where
  serve : s.schedule.serve i place r = .answered a t
  tasks : t.tasks = s.schedule.tasks
  lock : (t.world.station place).lock = s.station.lock
  length : t.world.stations.length = s.schedule.world.stations.length
  answered : ∀ next, Answered i s.moment r a (s.answered i r a t next).moment

theorem answered_of_met {s : Scene J α} {i : Nat} {r : Request} {a : r.Answer} {t : Schedule α}
    {met : Moment} (hmet : Met s.moment r a met) (hground : groundOf t = met.toGround)
    (hnow : t.now = met.now) (hsignal : (t.world.station place).signal = met.signal)
    (hours : met.ours = s.ours ++ r.opened a) (hpast : met.past = s.past)
    (next : r.Answer → Work α) : Answered i s.moment r a (s.answered i r a t next).moment := by
  refine ⟨met, hmet, ?_⟩
  cases met
  simp only at hground hnow hsignal hours hpast
  subst hground hnow hsignal hours hpast
  rfl

theorem station_modifyLock {s : Scene J α} (h : place < s.schedule.world.stations.length)
    (f : Lock → Lock) :
    (s.schedule.onWorld fun w => w.modifyLock place f).world.station place =
      { s.station with lock := f s.station.lock } :=
  World.station_modifyStation h _

theorem moment_of_lock {s : Scene J α} {t : Schedule α} {lock : Lock}
    (hbroker : t.world.broker = s.schedule.world.broker) (hnow : t.now = s.schedule.now)
    (hstation : t.world.station place = { s.station with lock }) :
    ({ s with schedule := t } : Scene J α).moment = s.moment := by
  simp only [moment, groundOf, station, hbroker, hnow, hstation]

/-- What is noted when the lock is taken or given back. -/
theorem answered_of_lock {s : Scene J α} {i : Nat} {r : Request} {a : r.Answer} {t : Schedule α}
    {lock : Lock} (hmet : Met s.moment r a s.moment) (hopened : r.opened a = [])
    (hbroker : t.world.broker = s.schedule.world.broker) (hnow : t.now = s.schedule.now)
    (hstation : t.world.station place = { s.station with lock }) (next : r.Answer → Work α) :
    Answered i s.moment r a (s.answered i r a t next).moment := by
  refine answered_of_met hmet ?_ hnow ?_ ?_ rfl next
  · rw [groundOf, hbroker, hstation]
    rfl
  · rw [hstation]
    rfl
  · rw [hopened, List.append_nil]
    rfl

/-- What an interruption does to the station. -/
theorem station_interrupt {s : Scene J α} (h : place < s.schedule.world.stations.length) :
    (s.schedule.interrupt place).world.station place =
      { s.station with
        signal := { s.station.signal with rounds := s.station.signal.rounds + 1 } } :=
  (congrArg (World.station · place) (s.schedule.interrupt_eq place).1).trans
    (World.station_modifyStation h _)

/-- What shutting the station down does to it. -/
theorem station_shutDown {s : Scene J α} (h : place < s.schedule.world.stations.length) :
    (s.schedule.shutDown place).world.station place =
      { s.station with
        signal := { isShutDown := true, rounds := s.station.signal.rounds + 1 } } := by
  have hdown : (s.schedule.world.shutDown place).station place =
      { s.station with signal := { s.station.signal with isShutDown := true } } :=
    World.station_modifyStation h _
  have hlength : place < (s.schedule.world.shutDown place).stations.length :=
    (World.length_modifyStation _ _ _).symm ▸ h
  rw [(s.schedule.shutDown_eq place).1]
  refine (World.station_modifyStation hlength _).trans ?_
  rw [hdown]

theorem serves_inside {s : Scene J α} (hstation : place < s.schedule.world.stations.length)
    (i : Nat) {r : Request} (hr : r.isInside = true ∨ r = .shutDown ∨ r = .interrupt)
    (hrest : r.isRest = false) : ∃ a t, s.Serves i r a t := by
  have hlook : ∀ {r : Request} {a : r.Answer}, s.schedule.serve i place r = .answered a s.schedule →
      Met s.moment r a s.moment → r.opened a = [] → ∃ a t, s.Serves i r a t := by
    intro r a hserve hmet hopened
    refine ⟨a, s.schedule, hserve, rfl, rfl, rfl, answered_of_met hmet rfl rfl rfl ?_ rfl⟩
    rw [hopened, List.append_nil]
    rfl
  have hmodify : ∀ (f : Station → Station),
      (s.schedule.onWorld fun w => w.modifyStation place f).world.station place = f s.station :=
    fun f => World.station_modifyStation hstation f
  cases r with
  | lookup name properties => exact hlook rfl (.lookup name properties _) rfl
  | call c => exact ⟨_, _, rfl, rfl, rfl, rfl, answered_of_met (.call c) rfl rfl rfl rfl rfl⟩
  | clock => exact hlook rfl .clock rfl
  | isShutDown => exact hlook rfl .isShutDown rfl
  | enlist => exact hlook rfl .enlist rfl
  | manager => exact hlook rfl .manager rfl
  | keep x =>
      refine ⟨_, _, rfl, rfl, ?_, World.length_modifyStation _ _ _,
        answered_of_met (.keep x) ?_ rfl ?_ (List.append_nil _).symm rfl⟩
      · rw [hmodify]
      · rw [groundOf, hmodify]
        rfl
      · rw [hmodify]
        rfl
  | shutDown =>
      have hdown : (s.schedule.onWorld fun w => w.shutDown place).world.station place =
        { s.station with signal := { s.station.signal with isShutDown := true } } := hmodify _
      refine ⟨_, _, rfl, rfl, ?_, World.length_modifyStation _ _ _,
        answered_of_met .shutDown ?_ rfl ?_ (List.append_nil _).symm rfl⟩
      · rw [hdown]
      · rw [groundOf, hdown]
        rfl
      · rw [hdown]
        rfl
  | interrupt =>
      obtain ⟨hworld, htasks, hnow⟩ := s.schedule.interrupt_eq place
      have hended := station_interrupt hstation
      refine ⟨_, _, rfl, htasks, ?_, ?_,
        answered_of_met .interrupt ?_ hnow ?_ (List.append_nil _).symm rfl⟩
      · rw [hended]
      · rw [hworld]
        exact World.length_modifyStation _ _ _
      · rw [groundOf, hended, hworld]
        rfl
      · rw [hended]
        rfl
  | rest millis ticket => simp [Request.isRest] at hrest
  | _ => simp [Request.isInside] at hr

theorem jobs_act (s : Scene J α) (i : Nat) : (s.act i).jobs = s.jobs := by
  unfold act ask
  split
  next => rfl
  next => split <;> rfl
  next =>
    split
    next => rfl
    next => split <;> rfl
  next => split <;> rfl
  next => rfl

@[simp] theorem run_cons (work : J → Work α) (s : Scene J α) (c : Choice J)
    (rest : List (Choice J)) : s.run work (c :: rest) = (s.step work c).run work rest := rfl

@[simp] theorem run_append (work : J → Work α) (s : Scene J α) (first second : List (Choice J)) :
    s.run work (first ++ second) = (s.run work first).run work second :=
  List.foldl_append

/-- What every step keeps is kept whatever is chosen. -/
theorem run_of_step {I : Scene J α → Prop} {work : J → Work α}
    (hstep : ∀ s c, I s → I (s.step work c)) {s : Scene J α} (h : I s)
    (choices : List (Choice J)) : I (s.run work choices) := by
  induction choices generalizing s with
  | nil => exact h
  | cons c rest ih => exact ih (hstep s c h)

end Scene

end Sluice
