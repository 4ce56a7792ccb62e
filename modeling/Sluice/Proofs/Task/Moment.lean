import Mathlib.Logic.Relation
import Sluice.Proofs.Broker.Handles
import Sluice.Task.World

/-! # Moments of a station

What a task of a station can find out and change: the time, the broker, the manager and the signal
of the station, the handles that were opened for the station, and what has happened so far. Between
two requests of a task that holds the lock, others act: they let time pass, use the broker through
handles of their own, and raise the signal. What the task knows of its own handles stays true.
-/

namespace Sluice

/-- What the tasks of a station change. -/
structure Ground where
  broker : Broker := {}
  manager : Manager := {}

/-- What was done in one step. -/
inductive Deed where
  /-- Something was done with the broker. -/
  | operated (o : Operation)
  /-- A rest was over, ended by an interruption or not. -/
  | rested (early : Bool)
  /-- The signal of the station was looked at. -/
  | looked (isShutDown : Bool)
  /-- Anything else. -/
  | other

/-- One step, and what it changed. -/
structure Event where
  /-- The task of the station that took the step, if it was one. -/
  task : Option Nat
  deed : Deed
  now : Nat
  before : Ground
  after : Ground

/-- What a task has done when its request was answered. -/
def Request.deed : (r : Request) → r.Answer → Deed
  | .call c, _ => .operated (.call c)
  | .rest _ _, early => .rested early
  | .isShutDown, down => .looked down
  | _, _ => .other

/-- A moment of a station. -/
structure Moment extends Ground where
  now : Nat := 0
  signal : Signal := {}
  /-- The handles that the broker gave to tasks of the station. -/
  ours : List AnyHandle := []
  /-- What has happened so far, the oldest first. -/
  past : List Event := []

namespace Moment

/-- Add to what has happened. -/
def note (m : Moment) (e : Event) : Moment := { m with past := m.past ++ [e] }

/-- A task did something that changed nothing. -/
def idled (m : Moment) (i : Nat) (d : Deed) : Moment :=
  m.note ⟨some i, d, m.now, m.toGround, m.toGround⟩

/-- A task made a call and got a reply, and the broker is another one now. -/
def called (m : Moment) (i : Nat) (c : Call) (reply : c.Reply) (b : Broker) : Moment :=
  { m with broker := b, ours := m.ours ++ c.opened reply }.note
    ⟨some i, .operated (.call c), m.now, m.toGround, ⟨b, m.manager⟩⟩

/-- A task put another manager in the place of that of the station. -/
def kept (m : Moment) (i : Nat) (x : Manager) : Moment :=
  { m with manager := x }.note ⟨some i, .other, m.now, m.toGround, ⟨m.broker, x⟩⟩

/-- What a task has done so far. -/
def own (m : Moment) (i : Nat) : List Event := m.past.filter fun e => e.task = some i

theorem own_note (m : Moment) (e : Event) (i : Nat) :
    (m.note e).own i = m.own i ++ if e.task = some i then [e] else [] := by
  simp only [own, note, List.filter_append]
  split <;> simp_all

@[simp] theorem own_idled (m : Moment) (i : Nat) (d : Deed) :
    (m.idled i d).own i = m.own i ++ [⟨some i, d, m.now, m.toGround, m.toGround⟩] := by
  rw [idled, own_note, if_pos rfl]

@[simp] theorem own_called (m : Moment) (i : Nat) (c : Call) (reply : c.Reply) (b : Broker) :
    (m.called i c reply b).own i =
      m.own i ++ [⟨some i, .operated (.call c), m.now, m.toGround, ⟨b, m.manager⟩⟩] := by
  rw [called, own_note, if_pos rfl]
  rfl

@[simp] theorem own_kept (m : Moment) (i : Nat) (x : Manager) :
    (m.kept i x).own i = m.own i ++ [⟨some i, .other, m.now, m.toGround, ⟨m.broker, x⟩⟩] := by
  rw [kept, own_note, if_pos rfl]
  rfl

end Moment

/-- What becomes of a moment when a request is answered. The directory may answer anything, and a
rest may end at any time after an interruption, or when it is over. -/
inductive Met (m : Moment) : (r : Request) → r.Answer → Moment → Prop
  | lookup (name : String) (properties : Properties) (found : Except NamingError Entry) :
      Met m (.lookup name properties) found m
  | call (c : Call) :
      Met m (.call c) (m.broker.perform m.now c).1
        { m with
          broker := (m.broker.perform m.now c).2
          ours := m.ours ++ c.opened (m.broker.perform m.now c).1 }
  | clock : Met m .clock m.now m
  | isShutDown : Met m .isShutDown m.signal.isShutDown m
  | shutDown : Met m .shutDown () { m with signal := { m.signal with isShutDown := true } }
  | interrupt :
      Met m .interrupt () { m with signal := { m.signal with rounds := m.signal.rounds + 1 } }
  | enlist : Met m .enlist m.signal.rounds m
  | rest (millis : Nat) (ticket : Option Nat) (early : Bool)
      (h : early = true → m.signal.endedSince ticket) : Met m (.rest millis ticket) early m
  | lock : Met m .lock () m
  | unlock : Met m .unlock () m
  | manager : Met m .manager m.manager m
  | keep (x : Manager) : Met m (.keep x) () { m with manager := x }

namespace Moment

/-- The answer to a request that only looks. -/
def look (m : Moment) : (r : Request) → Option r.Answer
  | .clock => some m.now
  | .isShutDown => some m.signal.isShutDown
  | .enlist => some m.signal.rounds
  | .manager => some m.manager
  | _ => none

end Moment

theorem Met.of_look {m met : Moment} {r : Request} {a a' : r.Answer} (h : Met m r a' met)
    (hlook : m.look r = some a) : a' = a ∧ met = m := by
  cases h with
  | clock => exact ⟨Option.some.inj hlook, rfl⟩
  | isShutDown => exact ⟨Option.some.inj hlook, rfl⟩
  | enlist => exact ⟨Option.some.inj hlook, rfl⟩
  | manager => exact ⟨Option.some.inj hlook, rfl⟩
  | _ => exact absurd hlook (by simp [Moment.look])

/-- The event of a request that takes one moment to another. -/
def Event.answered (i : Nat) (r : Request) (a : r.Answer) (m met : Moment) : Event :=
  ⟨some i, r.deed a, m.now, m.toGround, met.toGround⟩

/-- A task is answered, and what it has done is noted. -/
def Answered (i : Nat) (m : Moment) (r : Request) (a : r.Answer) (m' : Moment) : Prop :=
  ∃ met, Met m r a met ∧ m' = met.note (.answered i r a m met)

theorem Met.past {m met : Moment} {r : Request} {a : r.Answer} (h : Met m r a met) :
    met.past = m.past := by
  cases h <;> rfl

/-- Nobody makes time pass by asking. -/
theorem Answered.now {i : Nat} {m m' : Moment} {r : Request} {a : r.Answer}
    (h : Answered i m r a m') : m'.now = m.now := by
  obtain ⟨met, hmet, rfl⟩ := h
  cases hmet <;> rfl

theorem Answered.past {i : Nat} {m m' : Moment} {r : Request} {a : r.Answer}
    (h : Answered i m r a m') :
    m'.past = m.past ++ [⟨some i, r.deed a, m.now, m.toGround, m'.toGround⟩] := by
  obtain ⟨met, hmet, rfl⟩ := h
  exact congrArg (· ++ [_]) hmet.past

theorem Answered.own {i : Nat} {m m' : Moment} {r : Request} {a : r.Answer}
    (h : Answered i m r a m') :
    m'.own i = m.own i ++ [⟨some i, r.deed a, m.now, m.toGround, m'.toGround⟩] := by
  obtain ⟨met, hmet, rfl⟩ := h
  rw [Moment.own_note, Moment.own, hmet.past, Event.answered, if_pos rfl]
  rfl

/-- A later state of a signal: it is never lowered. -/
structure Signal.Raised (first second : Signal) : Prop where
  isShutDown : first.isShutDown = true → second.isShutDown = true
  rounds : first.rounds ≤ second.rounds

theorem Signal.Raised.refl (s : Signal) : s.Raised s := ⟨id, Nat.le_refl _⟩

theorem Signal.Raised.trans {first second third : Signal} (h : first.Raised second)
    (h' : second.Raised third) : first.Raised third :=
  ⟨fun hdown => h'.isShutDown (h.isShutDown hdown), Nat.le_trans h.rounds h'.rounds⟩

/-- A rest that was ended stays so. -/
theorem Signal.Raised.endedSince {first second : Signal} (h : first.Raised second)
    {ticket : Option Nat} (hended : first.endedSince ticket = true) :
    second.endedSince ticket = true := by
  cases ticket with
  | none => simp [Signal.endedSince] at hended
  | some drawn =>
      simp only [Signal.endedSince, Option.any_some, decide_eq_true_eq] at hended ⊢
      exact Nat.lt_of_lt_of_le hended h.rounds

/-- What somebody else than a task does, by whom nothing that belongs to the station is used: time
passes, the signal is raised, other tasks do what they may without the lock; or the broker is
used. -/
inductive Shift (i : Nat) (m : Moment) : Moment → Prop
  | beside (now : Nat) (signal : Signal) (events : List Event) (hnow : m.now ≤ now)
      (hsignal : m.signal.Raised signal)
      (hevents : ∀ e ∈ events, e.task ≠ some i ∧ e.task ≠ none ∧ e.deed = .other) :
      Shift i m { m with now, signal, past := m.past ++ events }
  | operated (o : Operation) (huses : ∀ h ∈ o.uses, h ∉ m.ours) :
      Shift i m
        ({ m with broker := (m.broker.operate m.now o).2 }.note
          ⟨none, .operated o, m.now, m.toGround, ⟨(m.broker.operate m.now o).2, m.manager⟩⟩)

/-- What others do between two requests of a task. -/
abbrev Drift (i : Nat) : Moment → Moment → Prop := Relation.ReflTransGen (Shift i)

/-- What a task can rely on while others act. -/
structure Frame (i : Nat) (m m' : Moment) : Prop where
  manager : m'.manager = m.manager
  ours : m'.ours = m.ours
  own : m'.own i = m.own i
  record : ∀ h ∈ m.ours, m'.broker.record? h = m.broker.record? h
  keeps : m'.broker.Keeps m'.ours
  signal : m.signal.Raised m'.signal

theorem Shift.own {i : Nat} {m m' : Moment} (h : Shift i m m') : m'.own i = m.own i := by
  cases h with
  | beside now signal events hnow hsignal hevents =>
      have hnone : events.filter (fun e => e.task = some i) = [] := by
        rw [List.filter_eq_nil_iff]
        intro e hmem
        simpa using (hevents e hmem).1
      simp only [Moment.own, List.filter_append, hnone, List.append_nil]
  | operated o huses =>
      rw [Moment.own_note]
      simp [Moment.own]

theorem Drift.own {i : Nat} {m m' : Moment} (h : Drift i m m') : m'.own i = m.own i := by
  induction h with
  | refl => rfl
  | tail _ hshift ih => exact hshift.own.trans ih

theorem Drift.manager {i : Nat} {m m' : Moment} (h : Drift i m m') : m'.manager = m.manager := by
  induction h with
  | refl => rfl
  | tail _ hshift ih => cases hshift <;> exact ih

theorem Drift.raised {i : Nat} {m m' : Moment} (h : Drift i m m') : m.signal.Raised m'.signal := by
  induction h with
  | refl => exact .refl _
  | tail _ hshift ih =>
      cases hshift with
      | beside now signal events hnow hsignal hevents => exact ih.trans hsignal
      | operated o huses => exact ih

theorem Shift.frame {i : Nat} {m m' : Moment} (h : Shift i m m') (hkeeps : m.broker.Keeps m.ours) :
    Frame i m m' := by
  have hown := h.own
  cases h with
  | beside now signal events hnow hsignal hevents =>
      exact ⟨rfl, rfl, hown, fun _ _ => rfl, hkeeps, hsignal⟩
  | operated o huses =>
      obtain ⟨hkept, hrecords⟩ := hkeeps.operate m.now huses
      exact ⟨rfl, rfl, hown, hrecords, hkept, .refl _⟩

theorem Drift.frame {i : Nat} {m m' : Moment} (h : Drift i m m') (hkeeps : m.broker.Keeps m.ours) :
    Frame i m m' := by
  induction h with
  | refl => exact ⟨rfl, rfl, rfl, fun _ _ => rfl, hkeeps, .refl _⟩
  | tail _ hshift ih =>
      have hlast := hshift.frame ih.keeps
      refine ⟨hlast.manager.trans ih.manager, hlast.ours.trans ih.ours, hlast.own.trans ih.own, ?_,
        hlast.keeps, ih.signal.trans hlast.signal⟩
      intro h hmem
      rw [hlast.record h (ih.ours ▸ hmem), ih.record h hmem]

/-- A statement about moments that others do not make false. -/
def Stable (P : Moment → Prop) : Prop := ∀ i m m', Shift i m m' → P m → P m'

theorem Stable.drift {P : Moment → Prop} (hstable : Stable P) {i : Nat} {m m' : Moment}
    (h : Drift i m m') (hm : P m) : P m' := by
  induction h with
  | refl => exact hm
  | tail _ hshift ih => exact hstable i _ _ hshift ih

end Sluice
