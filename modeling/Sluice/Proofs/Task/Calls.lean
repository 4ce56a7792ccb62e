import Sluice.Proofs.Resources.Discreet
import Sluice.Proofs.Task.Steps

/-! # The order of calls

Every task comes to the lock of the station at most once: it may raise the signal before, asks for
the lock, works inside, gives the lock back, and has come back then. So the tasks that asked for the
lock keep their ranks, whatever is chosen. A task that begins by asking for the lock is called when
it takes its first step.
-/

namespace Sluice

/-- How far a task has come. -/
inductive Passage where
  | ahead
  | inside
  | through

namespace Request

/-- Whether a request may be asked inside the lock by a task that sends messages or does not. -/
def isOpenTo (r : Request) (sends : Bool) : Bool := if sends then r.isInside else r.isDiscreet

theorem isInside_of_isOpenTo {r : Request} {sends : Bool} (h : r.isOpenTo sends = true) :
    r.isInside = true := by
  cases sends with
  | true => exact h
  | false => cases r <;> simp_all [isOpenTo, isDiscreet, isInside]

end Request

namespace Work

variable {α β : Type} {sends : Bool}

/-- Work that asks for the lock at most once, gives it back, and asks nothing after that. -/
inductive Once (sends : Bool) : Passage → Work α → Prop
  | nothing (x : α) : Once sends .ahead (.done x)
  | raise {r : Request} {next : r.Answer → Work α} (hr : r = .shutDown ∨ r = .interrupt)
      (h : ∀ a, Once sends .ahead (next a)) : Once sends .ahead (Script.ask r next)
  | enter {next : Request.lock.Answer → Work α} (h : ∀ a, Once sends .inside (next a)) :
      Once sends .ahead (Script.ask .lock next)
  | go {r : Request} {next : r.Answer → Work α} (hr : r.isOpenTo sends = true)
      (h : ∀ a, Once sends .inside (next a)) : Once sends .inside (Script.ask r next)
  | leave {next : Request.unlock.Answer → Work α} (h : ∀ a, Once sends .through (next a)) :
      Once sends .inside (Script.ask .unlock next)
  | back (x : α) : Once sends .through (.done x)

/-- What may be left of work before the lock is asked for: the signal was raised, and no more. -/
inductive Leaves (w : Work α) : Work α → Prop
  | all : Leaves w w
  | raised {r : Request} {next : r.Answer → Work α} (h : Leaves w (Script.ask r next))
      (hr : r = .shutDown ∨ r = .interrupt) (a : r.Answer) : Leaves w (next a)

/-- Nothing is done before the lock is asked for by work that begins with it. -/
theorem Leaves.eq_of_lock {w w' : Work α} (h : w.Leaves w')
    (hw : ∃ next, w = Script.ask .lock next) : w' = w := by
  induction h with
  | all => rfl
  | raised h hr a ih =>
      obtain ⟨next', rfl⟩ := hw
      rcases hr with rfl | rfl <;> cases ih

/-- Work inside the lock. -/
def Inner (sends : Bool) : Work α → Prop
  | .done _ => True
  | Script.ask r next => r.isOpenTo sends = true ∧ ∀ a, Inner sends (next a)

theorem Discreet.inner {w : Work α} (h : w.Discreet) : w.Inner false := by
  induction w with
  | done x => trivial
  | ask r next ih => exact ⟨h.1, fun a => ih a (h.2 a)⟩

theorem inner_ask {r : Request} {f : r.Answer → Work β} (hr : r.isOpenTo sends = true)
    (hf : ∀ a, (f a).Inner sends) : (Work.ask r >>= f).Inner sends :=
  ⟨hr, hf⟩

theorem inner_done (x : α) : Inner sends (Script.done x) := trivial

theorem once_locked {body : Work β} (h : body.Inner sends) (f : β → α) :
    (Work.locked body >>= fun x => Script.done (f x)).Once sends .ahead := by
  refine .enter fun _ => ?_
  change ((body >>= fun x => (Work.ask .unlock >>= fun _ => Script.done x)) >>=
    fun x => Script.done (f x)).Once sends .inside
  rw [bind_assoc]
  induction body with
  | done x => exact .leave fun _ => .back (f x)
  | ask r next ih => exact .go h.1 fun a => ih a (h.2 a)

theorem Once.goesOn {w : Work α} (h : w.Once sends .inside) :
    (TaskState.ready w).goesOn = true := by
  cases h <;> rfl

theorem Once.cameBack {w : Work α} (h : w.Once sends .through) :
    (TaskState.ready w).goesOn = false := by
  cases h
  rfl

end Work

theorem World.lock_modifySignal (w : World) (place : Nat) (f : Signal → Signal) :
    ((w.modifySignal place f).station place).lock = (w.station place).lock := by
  simp only [station, modifySignal, modifyStation, List.getElem?_modify_eq]
  cases w.stations[place]? <;> rfl

namespace Scene

variable {J α : Type} {T : Terms} {account : J → α → List Event → Prop} {work : J → Work α}
variable {direct : J → Bool} {asked : List Nat} {s s' : Scene J α} {i : Nat} {job : J} {w : Work α}

/-- Whether a task takes a step of its own when its turn comes. -/
def isReady (s : Scene J α) (i : Nat) : Bool :=
  match s.state? i with
  | some (.ready _) => true
  | _ => false

/-- The tasks that have taken a step, in the order of their first steps, after one more choice. -/
def called (s : Scene J α) (calls : List Nat) : Choice J → List Nat
  | .act i => if s.isReady i && !calls.contains i then calls ++ [i] else calls
  | _ => calls

/-- The tasks that have taken a step, in the order of their first steps, after choices. -/
def calls (work : J → Work α) (s : Scene J α) (before : List Nat) : List (Choice J) → List Nat
  | [] => before
  | c :: rest => (s.step work c).calls work (s.called before c) rest

/-- Whether a task was begun for a job that begins by asking for the lock. -/
def isDirect (direct : J → Bool) (s : Scene J α) (i : Nat) : Bool := (s.jobs[i]?).any direct

/-- How far a task has come: it holds the lock, or it has asked for it or not. -/
def passage (asked : List Nat) (s : Scene J α) (i : Nat) : Passage :=
  if s.holds i then .inside else if i ∈ asked then .through else .ahead

/-- How a task stands that comes to the lock once. -/
def Comes (work : J → Work α) (direct : J → Bool) (asked : List Nat) (s : Scene J α) (i : Nat)
    (job : J) : TaskState α → Prop
  | .ready w => w.Once (direct job) (s.passage asked i) ∧ (i ∉ asked → (work job).Leaves w)
  | .resting _ _ next => ∀ a, (next a).Once (direct job) .inside
  | .inLine next => i ∈ asked ∧ (work job).Leaves (Script.ask .lock next) ∧
      ∀ a, (next a).Once (direct job) .inside
  | .finished _ => True
  | .cancelled => True

/-- All tasks come to the lock once, and keep their ranks. -/
structure Queued (work : J → Work α) (direct : J → Bool) (asked : List Nat) (s : Scene J α) :
    Prop where
  ranked : s.Ranked direct asked
  known : ∀ i ∈ asked, i < s.schedule.tasks.length
  quiet : ∀ i job, s.jobs[i]? = some job → direct job = false → s.sentBy i = []
  comes : ∀ i state job, s.state? i = some state → s.jobs[i]? = some job →
    s.Comes work direct asked i job state

theorem sent_of_isDiscreet {r : Request} (hr : r.isDiscreet = true) {a : r.Answer} {e : Event}
    (he : e.deed = r.deed a) : e.sent = [] := by
  rw [Event.sent, he]
  cases r with
  | call c => exact Broker.delivered_of_isDiscreet hr _ _
  | _ => rfl

/-- Whatever is asked outside the lock is nothing to the broker and the manager. -/
theorem ground_of_answered {m m' : Moment} {r : Request} {a : r.Answer} (h : Answered i m r a m')
    (hr : r.isInside = false) : r.deed a = .other ∧ m'.toGround = m.toGround := by
  obtain ⟨met, hmet, rfl⟩ := h
  cases hmet with
  | shutDown => exact ⟨rfl, rfl⟩
  | interrupt => exact ⟨rfl, rfl⟩
  | lock => exact ⟨rfl, rfl⟩
  | unlock => exact ⟨rfl, rfl⟩
  | _ => simp [Request.isInside] at hr

theorem idle_of_answered {m m' : Moment} {r : Request} {a : r.Answer} (h : Answered i m r a m')
    (hr : r.isInside = false) : Event.Idle ⟨some i, r.deed a, m.now, m.toGround, m'.toGround⟩ :=
  ⟨(ground_of_answered h hr).1, (ground_of_answered h hr).2⟩

section Turned

variable {state : TaskState α} (h : Turned i state s s')

include h

theorem Turned.goesOn : s'.goesOn i = state.goesOn := by
  rw [Scene.goesOn, h.state, Option.any_some]

theorem Turned.moves {events : List Event} (hpast : s'.past = s.past ++ events)
    (hmine : ∀ e ∈ events, e.task = some i) : Moves i events s s' where
  past := hpast
  mine := hmine
  others j hj := by rw [Scene.goesOn, h.others j hj, Scene.goesOn]
  jobs j _ := by rw [h.jobs]

/-- Whoever moves without being answered does nothing. -/
theorem Turned.moves_nil (hmoment : s'.moment = s.moment) : Moves i [] s s' :=
  h.moves ((congrArg Moment.past hmoment).trans (List.append_nil _).symm) (by simp)

theorem Turned.moves_answered {r : Request} {a : r.Answer}
    (hanswered : Answered i s.moment r a s'.moment) :
    Moves i [⟨some i, r.deed a, s.moment.now, s.moment.toGround, s'.moment.toGround⟩] s s' :=
  h.moves hanswered.past fun e he => by rw [List.mem_singleton.mp he]

end Turned

/-- Whoever was ready before and after a lock was passed on holds it as before. -/
theorem holds_of_pass (hsound : s.Sound T account) (hholder : s.station.lock.holder = some i)
    (hlock : s'.station.lock = s.station.lock.pass) {j : Nat} {w : Work α} (hj : j ≠ i)
    (hready : s.state? j = some (.ready w)) : s'.holds j = s.holds j := by
  have hbefore : s.holds j = false := by
    simpa [holds, hholder] using fun heq => hj heq.symm
  rw [hbefore, holds, hlock, decide_eq_false_iff_not]
  intro hnow
  obtain ⟨t, next, ht, hstate⟩ := hsound.line j (Lock.mem_of_pass_holder hnow)
  rw [state?, ht, Option.map_some, hstate] at hready
  simp at hready

theorem holds_of_lock (hlock : s'.station.lock = s.station.lock) (j : Nat) :
    s'.holds j = s.holds j := by
  rw [holds, hlock, holds]

theorem passage_of_holder (hholder : s.station.lock.holder = some i) :
    s.passage asked i = .inside := by
  rw [passage, holds, decide_eq_true hholder, if_pos rfl]

theorem passage_of_out (hout : s.holds i = false) :
    s.passage asked i = if i ∈ asked then .through else .ahead := by
  rw [passage, hout, if_neg (by simp)]

namespace Queued

variable (h : s.Queued work direct asked) (hjob : s.jobs[i]? = some job)

include h hjob

/-- Whoever is about to rest holds the lock. -/
theorem inside_of_rest {millis : Nat} {ticket : Option Nat} {next : Bool → Work α}
    (hstate : s.state? i = some (.ready (Script.ask (.rest millis ticket) next))) :
    s.station.lock.holder = some i ∧ ∀ early, (next early).Once (direct job) .inside := by
  have honce := (h.comes i _ job hstate hjob).1
  cases hholds : s.holds i with
  | true =>
      have hholder : s.station.lock.holder = some i := of_decide_eq_true hholds
      rw [passage_of_holder hholder] at honce
      cases honce with
      | go hr hnext => exact ⟨hholder, hnext⟩
  | false =>
      rw [passage_of_out hholds] at honce
      split at honce
      next => cases honce
      next =>
        cases honce with
        | raise hr => rcases hr with heq | heq <;> cases heq

/-- Whoever is about to ask for the lock has not asked for it before. -/
theorem ahead_of_lock {next : Unit → Work α}
    (hstate : s.state? i = some (.ready (Script.ask .lock next))) :
    i ∉ asked ∧ ∀ a, (next a).Once (direct job) .inside := by
  have honce := (h.comes i _ job hstate hjob).1
  cases hholds : s.holds i with
  | true =>
      rw [passage_of_holder (of_decide_eq_true hholds)] at honce
      cases honce with
      | go hr => cases Request.isInside_of_isOpenTo hr
  | false =>
      rw [passage_of_out hholds] at honce
      split at honce
      next => cases honce
      next hnew =>
        cases honce with
        | raise hr => rcases hr with heq | heq <;> cases heq
        | enter hnext => exact ⟨hnew, hnext⟩

/-- A task moved, and all others stand as before. -/
theorem moved (asked' : List Nat) {state : TaskState α} {events : List Event}
    (hturned : Turned i state s s') (hmoves : Moves i events s s')
    (hranked : s'.Ranked direct asked') (hsame : ∀ j, j ≠ i → (j ∈ asked' ↔ j ∈ asked))
    (hholds : ∀ j w, j ≠ i → s.state? j = some (.ready w) → s'.holds j = s.holds j)
    (hquiet : direct job = false → events.flatMap Event.sent = [])
    (hcomes : s'.Comes work direct asked' i job state) : s'.Queued work direct asked' := by
  refine ⟨hranked, ?_, ?_, ?_⟩
  · intro j hj
    by_cases hji : j = i
    · subst hji
      exact lt_of_isSome (Option.isSome_of_eq_some hturned.state)
    · exact hturned.length ▸ h.known j ((hsame j hji).mp hj)
  · intro j job' hjob' hsends
    rw [hturned.jobs] at hjob'
    by_cases hji : j = i
    · subst hji
      obtain rfl := Option.some.inj (hjob.symm.trans hjob')
      rw [sentBy, hmoves.own, List.flatMap_append, hquiet hsends, List.append_nil]
      exact h.quiet j job hjob hsends
    · rw [hmoves.sentBy_of_ne hji]
      exact h.quiet j job' hjob' hsends
  · intro j state' job' hj hjob'
    rw [hturned.jobs] at hjob'
    by_cases hji : j = i
    · subst hji
      obtain rfl := Option.some.inj (hjob.symm.trans hjob')
      obtain rfl := Option.some.inj (hturned.state.symm.trans hj)
      exact hcomes
    · rw [hturned.others j hji] at hj
      have hold := h.comes j state' job' hj hjob'
      cases state' with
      | ready w =>
          obtain ⟨honce, hfirst⟩ := hold
          have hpassage : s'.passage asked' j = s.passage asked j := by
            simp only [passage, hholds j w hji hj, hsame j hji]
          exact ⟨hpassage ▸ honce, fun hj' => hfirst (mt (hsame j hji).mpr hj')⟩
      | resting deadline ticket next => exact hold
      | inLine next => exact ⟨(hsame j hji).mpr hold.1, hold.2⟩
      | finished x => trivial
      | cancelled => trivial

/-- Whoever holds the lock was answered and goes on. -/
theorem work_answered {r : Request} {a : r.Answer} (hturned : Turned i (.ready w) s s')
    (hanswered : Answered i s.moment r a s'.moment) (hlock : s'.station.lock = s.station.lock)
    (hholder : s.station.lock.holder = some i)
    (hquiet : direct job = false → ∀ e : Event, e.deed = r.deed a → e.sent = [])
    (hnext : w.Once (direct job) .inside) : s'.Queued work direct asked := by
  have hmoves := hturned.moves_answered hanswered
  have hgoes := hturned.goesOn.trans hnext.goesOn
  refine h.moved hjob asked hturned hmoves (h.ranked.worked hmoves hlock hholder hgoes)
    (fun _ _ => .rfl) (fun j _ _ _ => holds_of_lock hlock j) (fun hsends => ?_)
    ⟨?_, fun hnew => absurd (h.ranked.first hholder).1 hnew⟩
  · simp [hquiet hsends]
  · rw [passage_of_holder (hlock ▸ hholder)]
    exact hnext

/-- Whoever holds the lock rests. -/
theorem work_rests {deadline : Nat} {ticket : Option Nat} {next : Bool → Work α}
    (hturned : Turned i (.resting deadline ticket next) s s') (hmoment : s'.moment = s.moment)
    (hlock : s'.station.lock = s.station.lock) (hholder : s.station.lock.holder = some i)
    (hnext : ∀ early, (next early).Once (direct job) .inside) : s'.Queued work direct asked := by
  have hmoves := hturned.moves_nil hmoment
  exact h.moved hjob asked hturned hmoves (h.ranked.worked hmoves hlock hholder hturned.goesOn)
    (fun _ _ => .rfl) (fun j _ _ _ => holds_of_lock hlock j) (fun _ => rfl) hnext

/-- Whoever has not asked for the lock raised the signal. -/
theorem raised (hnew : i ∉ asked) (hout : s.holds i = false) {r : Request} {a : r.Answer}
    (hturned : Turned i (.ready w) s s') (hanswered : Answered i s.moment r a s'.moment)
    (hlock : s'.station.lock = s.station.lock) (hr : r.isInside = false)
    (hdirect : direct job = false) (hleaves : (work job).Leaves w)
    (hnext : w.Once (direct job) .ahead) : s'.Queued work direct asked := by
  have hmoves := hturned.moves_answered hanswered
  have hidle := idle_of_answered hanswered hr
  have huntouched : s'.Untouched direct i := by
    refine ⟨fun e he => ?_, fun job' hjob' hsends => ?_⟩
    · rw [hmoves.own] at he
      rcases List.mem_append.mp he with hold | hlast
      · exact (h.ranked.fresh i hnew).idle e hold
      · exact List.mem_singleton.mp hlast ▸ hidle
    · rw [hturned.jobs] at hjob'
      obtain rfl := Option.some.inj (hjob.symm.trans hjob')
      simp [hdirect] at hsends
  refine h.moved hjob asked hturned hmoves
    (h.ranked.aside hmoves hlock hnew (by simpa using hidle) huntouched) (fun _ _ => .rfl)
    (fun j _ _ _ => holds_of_lock hlock j) (fun _ => by simp [hidle.sent])
    ⟨?_, fun _ => hleaves⟩
  rw [passage_of_out ((holds_of_lock hlock i).trans hout), if_neg hnew]
  exact hnext

/-- Somebody asked for the lock and found it free. -/
theorem asked_free (hsound : s.Sound T account) (hnew : i ∉ asked)
    (hfree : s.station.lock.holder = none) (hturned : Turned i (.ready w) s s')
    (hanswered : Answered i s.moment .lock () s'.moment)
    (hlock : s'.station.lock = s.station.lock.join i) (hnext : w.Once (direct job) .inside) :
    s'.Queued work direct (asked ++ [i]) := by
  have hmoves := hturned.moves_answered hanswered
  have hidle := idle_of_answered hanswered rfl
  have hmembers := Lock.members_join hsound.orderly i
  rw [← hlock] at hmembers
  have hholder : s'.station.lock.holder = some i := by rw [hlock, Lock.join_of_free hfree]
  have hnobody : s.station.lock.members = [] := by
    simp [Lock.members, hfree, hsound.orderly.free hfree]
  refine h.moved hjob _ hturned hmoves (h.ranked.join hmoves hturned.jobs hnew hmembers
    (hturned.goesOn.trans hnext.goesOn) (by simpa using hidle) fun _ => hnobody)
    (fun j hj => by simp [hj]) (fun j w hj _ => ?_) (fun _ => by simp [hidle.sent])
    ⟨?_, fun hnot => absurd (List.mem_append_right _ List.mem_cons_self) hnot⟩
  · rw [holds, holds, hholder, hfree]
    simpa using fun heq : i = j => hj heq.symm
  · rw [passage_of_holder hholder]
    exact hnext

/-- Somebody asked for the lock and joined the line. -/
theorem asked_taken (hsound : s.Sound T account) (hnew : i ∉ asked) {k : Nat}
    (htaken : s.station.lock.holder = some k) {next : Unit → Work α}
    (hturned : Turned i (.inLine next) s s') (hmoment : s'.moment = s.moment)
    (hlock : s'.station.lock = s.station.lock.join i)
    (hleaves : (work job).Leaves (Script.ask .lock next))
    (hnext : ∀ a, (next a).Once (direct job) .inside) :
    s'.Queued work direct (asked ++ [i]) := by
  have hmoves := hturned.moves_nil hmoment
  have hmembers := Lock.members_join hsound.orderly i
  rw [← hlock] at hmembers
  have hholder : s'.station.lock.holder = s.station.lock.holder := by
    rw [hlock, Lock.join_of_taken htaken]
  exact h.moved hjob _ hturned hmoves (h.ranked.join hmoves hturned.jobs hnew hmembers
    hturned.goesOn (by simp) (by simp)) (fun j hj => by simp [hj])
    (fun j _ _ _ => by rw [holds, hholder, holds]) (fun _ => rfl)
    ⟨List.mem_append_right _ List.mem_cons_self, hleaves, hnext⟩

/-- Somebody came back or was stopped. -/
theorem left (hsound : s.Sound T account) {state : TaskState α} {events : List Event}
    (hturned : Turned i state s s') (hmoves : Moves i events s s')
    (hidle : ∀ e ∈ events, e.Idle) (hheld : events ≠ [] → s.station.lock.holder = some i)
    (hgoes : state.goesOn = false)
    (hlock : s'.station.lock = if s.station.lock.holder = some i then s.station.lock.pass
      else s.station.lock.leave i)
    (hcomes : s'.Comes work direct asked i job state) : s'.Queued work direct asked := by
  have hmembers : s'.station.lock.members = s.station.lock.members.filter (· ≠ i) := by
    rw [hlock]
    split
    next hholder => exact Lock.members_pass hsound.orderly hholder
    next hholder => exact Lock.members_leave hholder
  refine h.moved hjob asked hturned hmoves (h.ranked.leave hmoves hturned.jobs hmembers
    (hturned.goesOn.trans hgoes) hidle hheld) (fun _ _ => .rfl) ?_ ?_ hcomes
  · intro j w hj hready
    by_cases hholder : s.station.lock.holder = some i
    · exact holds_of_pass hsound hholder (hlock.trans (if_pos hholder)) hj hready
    · rw [if_neg hholder] at hlock
      rw [holds, hlock]
      rfl
  · intro _
    rw [List.flatMap_eq_nil_iff]
    exact fun e he => (hidle e he).sent

/-- Whoever holds the lock gave it back. -/
theorem gave_back (hsound : s.Sound T account) (hholder : s.station.lock.holder = some i)
    (hturned : Turned i (.ready w) s s') (hanswered : Answered i s.moment .unlock () s'.moment)
    (hlock : s'.station.lock = s.station.lock.pass) (hnext : w.Once (direct job) .through) :
    s'.Queued work direct asked := by
  have hout : s'.holds i = false := by
    rw [holds, hlock, decide_eq_false_iff_not]
    exact fun heq => hsound.orderly.apart i hholder (Lock.mem_of_pass_holder heq)
  have hmem := (h.ranked.first hholder).1
  refine h.left hjob hsound hturned (hturned.moves_answered hanswered)
    (by simpa using idle_of_answered hanswered rfl) (fun _ => hholder) hnext.cameBack
    (by rw [hlock, if_pos hholder]) ⟨?_, fun hnew => absurd hmem hnew⟩
  rw [passage_of_out hout, if_pos hmem]
  exact hnext

/-- A task was answered, inside the lock or outside. -/
theorem answered (hsound : s.Sound T account)
    (hdirect : direct job = true → ∃ next, work job = Script.ask .lock next)
    {r : Request} {a : r.Answer} {next : r.Answer → Work α}
    (hstate : s.state? i = some (.ready (Script.ask r next)))
    (hturned : Turned i (.ready (next a)) s s')
    (hanswered : Answered i s.moment r a s'.moment)
    (hlock : s'.station.lock = s.station.lock.after i r)
    (hfree : r = .lock → s.station.lock.holder = none) :
    s'.Queued work direct asked ∧ (direct job = true → i ∈ asked) ∨
      s'.Queued work direct (asked ++ [i]) ∧ i ∉ asked := by
  obtain ⟨honce, hleaves⟩ := h.comes i _ job hstate hjob
  cases hholds : s.holds i with
  | true =>
      have hholder : s.station.lock.holder = some i := of_decide_eq_true hholds
      rw [passage_of_holder hholder] at honce
      refine .inl ⟨?_, fun _ => (h.ranked.first hholder).1⟩
      cases honce with
      | go hr hnext =>
          have hinside := Lock.after_inside s.station.lock i
            (.inl (Request.isInside_of_isOpenTo hr))
          refine h.work_answered hjob hturned hanswered (hlock.trans hinside) hholder ?_ (hnext a)
          intro hsends e he
          rw [hsends] at hr
          exact sent_of_isDiscreet hr he
      | leave hnext => exact h.gave_back hjob hsound hholder hturned hanswered hlock (hnext a)
  | false =>
      rw [passage_of_out hholds] at honce
      by_cases hmem : i ∈ asked
      · rw [if_pos hmem] at honce
        cases honce
      · rw [if_neg hmem] at honce
        cases honce with
        | raise hr hnext =>
            have hnot : direct job = false := by
              by_contra hsends
              obtain ⟨next', hfirst⟩ := hdirect (by simpa using hsends)
              have heq := ((hleaves hmem).eq_of_lock ⟨next', hfirst⟩).trans hfirst
              rcases hr with rfl | rfl <;> cases heq
            have houtside : r.isInside = false := by rcases hr with rfl | rfl <;> rfl
            have hsame := hlock.trans (Lock.after_inside s.station.lock i (.inr hr))
            exact .inl ⟨h.raised hjob hmem hholds hturned hanswered hsame houtside hnot
              (.raised (hleaves hmem) hr a) (hnext a), fun hsends => by simp [hnot] at hsends⟩
        | enter hnext =>
            exact .inr ⟨h.asked_free hjob hsound hmem (hfree rfl) hturned hanswered hlock
              (hnext a), hmem⟩

/-- Whoever came back is done. -/
theorem returned {x : α} (hturned : Turned i (.finished x) s s') (hmoment : s'.moment = s.moment)
    (hlock : s'.station.lock = s.station.lock) (hgoes : s.goesOn i = false) :
    s'.Queued work direct asked := by
  have hmoves := hturned.moves_nil hmoment
  have hpast : s'.past = s.past := congrArg Moment.past hmoment
  refine h.moved hjob asked hturned hmoves (h.ranked.beside (fun j => ?_) hturned.jobs hlock
    (fun j => congrArg (Moment.own · j) hmoment) (by rw [deliveries, hpast, deliveries]))
    (fun _ _ => .rfl) (fun j _ _ _ => holds_of_lock hlock j) (fun _ => rfl) trivial
  by_cases hj : j = i
  · rw [hj, hturned.goesOn, hgoes]
    rfl
  · exact hmoves.others j hj

/-- A task is stopped. -/
theorem cancel (hsound : s.Sound T account) :
    ({ s with schedule := s.schedule.cancel i } : Scene J α).Queued work direct asked := by
  have hlt : i < s.schedule.tasks.length := hsound.jobs ▸ (List.getElem?_eq_some_iff.mp hjob).1
  have ht := List.getElem?_eq_getElem hlt
  obtain ⟨htasks, hnow, hworld⟩ := Schedule.cancel_eq ht
  rw [hsound.places _ (List.mem_of_getElem? ht)] at hworld
  have hlock := congrArg Station.lock ((congrArg (World.station · place) hworld).trans
    (World.station_modifyStation hsound.station _))
  have hstations : (s.schedule.cancel i).world.stations.length =
      s.schedule.world.stations.length := by
    rw [hworld]
    exact World.length_modifyStation _ _ _
  have hturned : Turned i .cancelled s { s with schedule := s.schedule.cancel i } :=
    turned_tasks (by rw [state?, ht]; rfl) htasks rfl hnow hstations
  exact h.left hjob hsound hturned
    (hturned.moves (List.append_nil _).symm (by simp)) (by simp) (by simp) rfl hlock trivial

omit hjob in
/-- A task takes one step. -/
theorem act (hsound : s.Sound T account)
    (hdirect : ∀ job, direct job = true → ∃ next, work job = Script.ask .lock next) (i : Nat) :
    (s.act i).Queued work direct asked ∧
        (s.isReady i = true → ∀ job, s.jobs[i]? = some job → direct job = true → i ∈ asked) ∨
      (s.act i).Queued work direct (asked ++ [i]) ∧ i ∉ asked ∧ s.isReady i = true := by
  have hready : ∀ {w : Work α}, s.state? i = some (.ready w) → s.isReady i = true := by
    intro w hstate
    rw [isReady, hstate]
  cases acts_act hsound i with
  | stays hcan hsame =>
      refine .inl ⟨by rw [hsame]; exact h, fun hready => ?_⟩
      rw [isReady] at hready
      split at hready
      next hstate => simp [canAct_of_ready hstate] at hcan
      next => cases hready
  | returns hstate hturned hmoment hlock =>
      obtain ⟨job, hjob⟩ := hsound.job_of_state hstate
      have hback : s.goesOn i = false := by simp [goesOn, hstate, TaskState.goesOn]
      refine .inl ⟨h.returned hjob hturned hmoment hlock hback, fun _ job' hjob' hsends => ?_⟩
      -- whoever begins by asking for the lock has asked for it before coming back
      by_contra hnew
      obtain ⟨next, hfirst⟩ := hdirect job' hsends
      have hleaves := (h.comes i _ job' hstate hjob').2 hnew
      cases (hleaves.eq_of_lock ⟨next, hfirst⟩).trans hfirst
  | answered hstate hgives hturned hanswered hlock hfree =>
      obtain ⟨job, hjob⟩ := hsound.job_of_state hstate
      rcases h.answered hjob hsound (hdirect job) hstate hturned hanswered hlock hfree with
        ⟨hqueued, hmem⟩ | ⟨hqueued, hnew⟩
      · refine .inl ⟨hqueued, fun _ job' hjob' => ?_⟩
        obtain rfl := Option.some.inj (hjob.symm.trans hjob')
        exact hmem
      · exact .inr ⟨hqueued, hnew, hready hstate⟩
  | rests hstate hmillis hturned hmoment hlock =>
      obtain ⟨job, hjob⟩ := hsound.job_of_state hstate
      obtain ⟨hholder, hnext⟩ := h.inside_of_rest hjob hstate
      exact .inl ⟨h.work_rests hjob hturned hmoment hlock hholder hnext,
        fun _ _ _ _ => (h.ranked.first hholder).1⟩
  | queues hstate hturned hmoment hlock htaken =>
      obtain ⟨job, hjob⟩ := hsound.job_of_state hstate
      obtain ⟨hnew, hnext⟩ := h.ahead_of_lock hjob hstate
      have hleaves := (h.comes i _ job hstate hjob).2 hnew
      exact .inr ⟨h.asked_taken hjob hsound hnew htaken hturned hmoment hlock hleaves hnext, hnew,
        hready hstate⟩
  | wakes hstate hgives hturned hanswered hlock =>
      obtain ⟨job, hjob⟩ := hsound.job_of_state hstate
      obtain ⟨_, hstands⟩ := hsound.standing hstate
      refine .inl ⟨h.work_answered hjob hturned hanswered hlock (of_decide_eq_true hstands.1)
        (fun _ e he => by rw [Event.sent, he]; rfl) (h.comes i _ job hstate hjob _), ?_⟩
      simp [isReady, hstate]
  | granted hstate hturned hanswered hlock hholder =>
      obtain ⟨job, hjob⟩ := hsound.job_of_state hstate
      refine .inl ⟨h.work_answered hjob hturned hanswered hlock hholder
        (fun _ e he => by rw [Event.sent, he]; rfl) ((h.comes i _ job hstate hjob).2.2 _), ?_⟩
      simp [isReady, hstate]

omit hjob in
/-- Others did something. -/
theorem beside (htasks : s'.schedule.tasks = s.schedule.tasks) (hjobs : s'.jobs = s.jobs)
    (hlock : s'.station.lock = s.station.lock)
    (hown : ∀ j, s'.moment.own j = s.moment.own j) (hlog : s'.deliveries = s.deliveries) :
    s'.Queued work direct asked := by
  have hstate : ∀ j, s'.state? j = s.state? j := fun j => by rw [state?, htasks, state?]
  have hpassage : ∀ j, s'.passage asked j = s.passage asked j := by
    intro j
    rw [passage, holds_of_lock hlock, passage]
  refine ⟨h.ranked.beside (fun j => by rw [goesOn, hstate, goesOn]) hjobs hlock hown hlog,
    htasks ▸ h.known, ?_, ?_⟩
  · rw [hjobs]
    intro j job hjob hsends
    rw [sentBy, hown]
    exact h.quiet j job hjob hsends
  · rw [hjobs]
    intro j state job hj hjob
    rw [hstate] at hj
    have hold := h.comes j state job hj hjob
    cases state with
    | ready w => exact ⟨hpassage j ▸ hold.1, hold.2⟩
    | resting deadline ticket next => exact hold
    | inLine next => exact hold
    | finished x => trivial
    | cancelled => trivial

omit hjob in
/-- A task is begun. -/
theorem begun (hsound : s.Sound T account) (job : J)
    (hwork : (work job).Once (direct job) .ahead) :
    (s.step work (.begin job)).Queued work direct asked := by
  have hjobs : ∀ j, (s.step work (.begin job)).jobs[j]? =
      if j = s.schedule.tasks.length then some job else s.jobs[j]? := by
    intro j
    rw [← hsound.jobs]
    exact getElem?_concat s.jobs job j
  have hnew : s.schedule.tasks.length ∉ asked := fun hmem => absurd (h.known _ hmem) (by omega)
  have hown : s.moment.own s.schedule.tasks.length = [] := hsound.fresh _ (Nat.le_refl _)
  have hnobody : (s.step work (.begin job)).holds s.schedule.tasks.length = false :=
    decide_eq_false fun hholder => absurd (hsound.holder _ hholder) (by omega)
  have hmoves : Moves s.schedule.tasks.length [] s (s.step work (.begin job)) := by
    refine ⟨(List.append_nil _).symm, by simp, fun j hj => ?_, fun j hj => ?_⟩
    · rw [goesOn, state?_begin, if_neg hj, goesOn]
    · rw [hjobs, if_neg hj]
  refine ⟨h.ranked.aside hmoves rfl hnew (by simp) ⟨?_, fun _ _ _ => hown⟩, ?_, ?_, ?_⟩
  · intro e he
    exact absurd (hown ▸ he : e ∈ ([] : List Event)) List.not_mem_nil
  · intro j hj
    simp only [step, Schedule.add, List.length_append]
    exact Nat.lt_add_right _ (h.known j hj)
  · intro j job' hjob' hsends
    rw [hjobs] at hjob'
    by_cases hj : j = s.schedule.tasks.length
    · subst hj
      exact congrArg (List.flatMap Event.sent) hown
    · rw [if_neg hj] at hjob'
      exact h.quiet j job' hjob' hsends
  · intro j state job' hstate hjob'
    rw [hjobs] at hjob'
    rw [state?_begin] at hstate
    by_cases hj : j = s.schedule.tasks.length
    · subst hj
      rw [if_pos rfl] at hstate hjob'
      obtain rfl := Option.some.inj hstate
      obtain rfl := Option.some.inj hjob'
      refine ⟨?_, fun _ => .all⟩
      rw [passage, hnobody, if_neg (by simp), if_neg hnew]
      exact hwork
    · rw [if_neg hj] at hstate hjob'
      exact h.comes j state job' hstate hjob'

omit hjob in
/-- What is chosen by others than the tasks. -/
theorem step_beside (hsound : s.Sound T account)
    (hwork : ∀ job, (work job).Once (direct job) .ahead) {c : Choice J}
    (hc : ∀ i, c ≠ .act i) : (s.step work c).Queued work direct asked := by
  cases c with
  | begin job => exact h.begun hsound job (hwork job)
  | act i => exact absurd rfl (hc i)
  | cancel i =>
      rcases s.step_cancel work i with hsame | ⟨t, ht, -, hstep⟩
      · rw [hsame]
        exact h
      · obtain ⟨job, hjob⟩ := hsound.job ht
        rw [hstep]
        exact h.cancel hjob hsound
  | operate o =>
      simp only [Scene.step]
      split
      next =>
        have hown : ∀ j, (s.operate o).moment.own j = s.moment.own j := by
          intro j
          change List.filter _ (s.past ++ [_]) = List.filter _ s.past
          simp
        have hlog : (s.operate o).deliveries = s.deliveries := by
          change List.flatMap _ (s.past ++ [_]) = List.flatMap _ s.past
          simp
        exact h.beside rfl rfl rfl hown hlog
      next => exact h
  | pass millis => exact h.beside rfl rfl rfl (fun _ => rfl) rfl
  | bind bindings => exact h.beside rfl rfl rfl (fun _ => rfl) rfl
  | interrupt =>
      obtain ⟨hworld, htasks, hnow⟩ := s.schedule.interrupt_eq place
      refine h.beside htasks rfl ?_ (fun _ => rfl) rfl
      change ((s.schedule.interrupt place).world.station place).lock = _
      rw [hworld]
      exact World.lock_modifySignal _ _ _
  | shutDown =>
      obtain ⟨hworld, htasks, hnow⟩ := s.schedule.shutDown_eq place
      refine h.beside htasks rfl ?_ (fun _ => rfl) rfl
      change ((s.schedule.shutDown place).world.station place).lock = _
      rw [hworld]
      exact (World.lock_modifySignal _ _ _).trans (World.lock_modifySignal _ _ _)

end Queued

/-- The tasks that begin by asking for the lock have asked for it in the order of their first
steps. -/
structure Called (direct : J → Bool) (asked calls : List Nat) (s : Scene J α) : Prop where
  nodup : calls.Nodup
  known : ∀ i ∈ calls, i < s.schedule.tasks.length
  agree : asked.filter (s.isDirect direct) = calls.filter (s.isDirect direct)

variable {calls : List Nat}

theorem exists_of_isDirect (h : s.isDirect direct i = true) :
    ∃ job, s.jobs[i]? = some job ∧ direct job = true := by
  rw [isDirect] at h
  cases hjob : s.jobs[i]? with
  | none => simp [hjob] at h
  | some job => exact ⟨job, rfl, by simpa [hjob] using h⟩

theorem Called.mem_iff (h : s.Called direct asked calls) (hi : s.isDirect direct i = true) :
    i ∈ asked ↔ i ∈ calls := by
  have hmem : i ∈ asked.filter (s.isDirect direct) ↔ i ∈ calls.filter (s.isDirect direct) := by
    rw [h.agree]
  simpa [hi] using hmem

theorem Called.act (h : s.Called direct asked calls) (hsound : s.Sound T account)
    {asked' : List Nat}
    (hasked : asked' = asked ∧
        (s.isReady i = true → ∀ job, s.jobs[i]? = some job → direct job = true → i ∈ asked) ∨
      asked' = asked ++ [i] ∧ i ∉ asked ∧ s.isReady i = true) :
    (s.act i).Called direct asked' (s.called calls (.act i)) := by
  have hdirect : (s.act i).isDirect direct = s.isDirect direct := by
    funext j
    rw [isDirect, jobs_act, isDirect]
  have hlength : (s.act i).schedule.tasks.length = s.schedule.tasks.length := by
    rw [← (hsound.act i).jobs, jobs_act, hsound.jobs]
  have hold : ∀ j ∈ calls, j < (s.act i).schedule.tasks.length :=
    fun j hj => hlength ▸ h.known j hj
  have hone : ∀ tasks : List Nat, (tasks ++ [i]).filter (s.isDirect direct) =
      tasks.filter (s.isDirect direct) ++ if s.isDirect direct i then [i] else [] := by
    intro tasks
    rw [List.filter_append]
    cases hi : s.isDirect direct i <;> simp [hi]
  -- whoever begins by asking for the lock asks for it with the first step, and only then
  by_cases hfirst : (s.isReady i && !calls.contains i) = true
  · obtain ⟨hready, hnew⟩ : s.isReady i = true ∧ i ∉ calls := by simpa using hfirst
    have hlt : i < s.schedule.tasks.length := by
      rw [isReady, state?] at hready
      cases ht : s.schedule.tasks[i]? with
      | none => simp [ht] at hready
      | some t => exact (List.getElem?_eq_some_iff.mp ht).1
    rw [called, if_pos hfirst]
    refine ⟨?_, ?_, ?_⟩
    · rw [List.nodup_append]
      refine ⟨h.nodup, by simp, fun j hj k hk heq => hnew ?_⟩
      rw [← List.mem_singleton.mp hk, ← heq]
      exact hj
    · intro j hj
      rcases List.mem_append.mp hj with hj | hj
      · exact hold j hj
      · rw [List.mem_singleton.mp hj, hlength]
        exact hlt
    · rw [hdirect, hone, ← h.agree]
      rcases hasked with ⟨rfl, hmem⟩ | ⟨rfl, -⟩
      · have hnot : s.isDirect direct i = false := by
          by_contra hi
          rw [Bool.not_eq_false] at hi
          obtain ⟨job, hjob, hsends⟩ := exists_of_isDirect hi
          exact hnew ((h.mem_iff hi).mp (hmem hready job hjob hsends))
        simp [hnot]
      · exact hone asked
  · rw [called, if_neg hfirst]
    refine ⟨h.nodup, hold, ?_⟩
    rw [hdirect, ← h.agree]
    rcases hasked with ⟨rfl, -⟩ | ⟨rfl, hnew, hready⟩
    · rfl
    · have hmem : i ∈ calls := by simpa [hready] using hfirst
      have hnot : s.isDirect direct i = false := by
        by_contra hi
        rw [Bool.not_eq_false] at hi
        exact hnew ((h.mem_iff hi).mpr hmem)
      rw [hone, hnot]
      exact List.append_nil _

/-- Whatever else is chosen, nobody is called. -/
theorem Called.beside (h : s.Called direct asked calls) (hsound : s.Sound T account)
    (hknown : ∀ i ∈ asked, i < s.schedule.tasks.length) {c : Choice J} (hc : ∀ i, c ≠ .act i)
    (hsound' : (s.step work c).Sound T account) :
    (s.step work c).Called direct asked (s.called calls c) := by
  have hsame : s.called calls c = calls := by
    cases c with
    | act i => exact absurd rfl (hc i)
    | _ => rfl
  have hdirect : ∀ j < s.schedule.tasks.length,
      (s.step work c).isDirect direct j = s.isDirect direct j := by
    intro j hj
    obtain ⟨begun, hjobs⟩ := jobs_step work s c
    rw [isDirect, ← hjobs, List.getElem?_append_left (hsound.jobs ▸ hj), isDirect]
  have hlength : s.schedule.tasks.length ≤ (s.step work c).schedule.tasks.length := by
    rw [← hsound.jobs, ← hsound'.jobs]
    exact (jobs_step work s c).length_le
  rw [hsame]
  refine ⟨h.nodup, fun j hj => Nat.lt_of_lt_of_le (h.known j hj) hlength, ?_⟩
  rw [List.filter_congr fun j hj => hdirect j (hknown j hj), h.agree,
    List.filter_congr fun j hj => hdirect j (h.known j hj)]

/-- Ranks are kept, whatever is chosen. -/
theorem Queued.step (h : s.Queued work direct asked) (hcalled : s.Called direct asked calls)
    (hsound : s.Sound T account)
    (hdirect : ∀ job, direct job = true → ∃ next, work job = Script.ask .lock next)
    (hwork : ∀ job, (work job).Once (direct job) .ahead) {c : Choice J}
    (hsound' : (s.step work c).Sound T account) :
    ∃ asked', asked <+: asked' ∧ (s.step work c).Queued work direct asked' ∧
      (s.step work c).Called direct asked' (s.called calls c) := by
  by_cases hc : ∃ i, c = .act i
  · obtain ⟨i, rfl⟩ := hc
    rcases h.act hsound hdirect i with ⟨hqueued, hmem⟩ | ⟨hqueued, hnew, hready⟩
    · exact ⟨asked, List.prefix_rfl, hqueued, hcalled.act hsound (.inl ⟨rfl, hmem⟩)⟩
    · exact ⟨asked ++ [i], List.prefix_append _ _, hqueued,
        hcalled.act hsound (.inr ⟨rfl, hnew, hready⟩)⟩
  · have hc' : ∀ i, c ≠ .act i := fun i heq => hc ⟨i, heq⟩
    exact ⟨asked, List.prefix_rfl, h.step_beside hsound hwork hc',
      hcalled.beside hsound h.known hc' hsound'⟩

/-- At every time, whatever was chosen, the tasks that asked for the lock have kept their ranks. -/
theorem Queued.run (h : s.Queued work direct asked) (hcalled : s.Called direct asked calls)
    (hsound : s.Sound T account)
    (hdirect : ∀ job, direct job = true → ∃ next, work job = Script.ask .lock next)
    (hwork : ∀ job, (work job).Once (direct job) .ahead)
    (habides : ∀ job i m, m.own i = [] → T.Abides i (account job) (work job) false m)
    (choices : List (Choice J)) :
    ∃ asked', asked <+: asked' ∧ (s.run work choices).Queued work direct asked' ∧
      (s.run work choices).Called direct asked' (s.calls work calls choices) := by
  induction choices generalizing s asked calls with
  | nil => exact ⟨asked, List.prefix_rfl, h, hcalled⟩
  | cons c rest ih =>
      have hsound' := hsound.step habides c
      obtain ⟨asked', hmore, hqueued, hcalled'⟩ := h.step hcalled hsound hdirect hwork hsound'
      obtain ⟨asked'', hmore', hlast⟩ := ih hqueued hcalled' hsound'
      exact ⟨asked'', hmore.trans hmore', hlast⟩

theorem queued_empty (work : J → Work α) (direct : J → Bool) :
    ({} : Scene J α).Queued work direct [] ∧ ({} : Scene J α).Called direct [] [] :=
  ⟨⟨⟨List.nodup_nil, rfl, .nil, fun _ _ => ⟨by simp [moment, Moment.own], fun _ _ _ => rfl⟩, rfl⟩,
    by simp, by simp, by simp [state?]⟩, List.nodup_nil, by simp, rfl⟩

end Scene

end Sluice
