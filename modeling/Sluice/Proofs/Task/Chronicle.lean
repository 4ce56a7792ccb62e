import Sluice.Proofs.Task.Scene

/-! # The chronicle of a broker

What happens in a scene is noted, and the broker is what the noted operations have made of it: a
scene is a run of its broker, with something else in between.
-/

namespace Sluice

variable {J α : Type}

/-- What a step makes of the broker. -/
def Deed.broker (d : Deed) (b : Broker) (now : Nat) : Broker :=
  match d with
  | .operated o => (b.operate now o).2
  | _ => b

namespace Schedule

theorem broker_shutDownAsPlanned (s : Schedule α) :
    s.shutDownAsPlanned.world.broker = s.world.broker := by
  unfold shutDownAsPlanned
  split
  next => rfl
  next => rw [(shutDown_eq _ _).1]; rfl

/-- A request that is answered makes of the broker what is noted of it. -/
theorem broker_of_answered {s t : Schedule α} {i place : Nat} {r : Request} {a : r.Answer}
    (h : s.serve i place r = .answered a t) :
    t.world.broker = (r.deed a).broker s.world.broker s.now := by
  cases r with
  | interrupt =>
      obtain ⟨rfl, rfl⟩ := Served.answered.inj h
      rw [(s.interrupt_eq place).1]
      rfl
  | unlock =>
      obtain ⟨rfl, rfl⟩ := Served.answered.inj h
      rw [(s.unlock_eq place).1]
      rfl
  | shutDownAsPlanned =>
      obtain ⟨rfl, rfl⟩ := Served.answered.inj h
      exact s.broker_shutDownAsPlanned
  | rest millis ticket =>
      rw [serve] at h
      split at h
      next =>
        obtain ⟨rfl, rfl⟩ := Served.answered.inj h
        rfl
      next =>
        split at h
        next =>
          obtain ⟨rfl, rfl⟩ := Served.answered.inj h
          rfl
        next => cases h
  | lock =>
      rw [serve] at h
      split at h
      next =>
        obtain ⟨rfl, rfl⟩ := Served.answered.inj h
        rfl
      next => cases h
  | pause => cases h
  | _ =>
      obtain ⟨rfl, rfl⟩ := Served.answered.inj h
      rfl

theorem broker_of_waits {s t : Schedule α} {i place : Nat} {r : Request}
    {state : (r.Answer → Work α) → TaskState α} (h : s.serve i place r = .waits state t) :
    t.world.broker = s.world.broker := by
  cases r with
  | rest millis ticket =>
      rw [serve] at h
      split at h
      next => cases h
      next =>
        split at h
        next => cases h
        next =>
          obtain ⟨rfl, rfl⟩ := Served.waits.inj h
          rfl
  | lock =>
      rw [serve] at h
      split at h
      next => cases h
      next =>
        obtain ⟨rfl, rfl⟩ := Served.waits.inj h
        rfl
  | pause =>
      obtain ⟨rfl, rfl⟩ := Served.waits.inj h
      rfl
  | _ => cases h

end Schedule

/-- The operation that an event noted, at its time. -/
def Event.operation? (e : Event) : Option (Nat × Operation) :=
  match e.deed with
  | .operated o => some (e.now, o)
  | _ => none

namespace Scene

def broker (s : Scene J α) : Broker := s.schedule.world.broker

/-- What was done with the broker so far. -/
def operations (s : Scene J α) : List (Nat × Operation) := s.past.filterMap Event.operation?

/-- One scene comes after another with at most one event, which tells what became of the broker. -/
inductive Notes (s s' : Scene J α) : Prop
  | nothing (hpast : s'.past = s.past) (hbroker : s'.broker = s.broker)
  | event (e : Event) (hpast : s'.past = s.past ++ [e]) (hbefore : e.before.broker = s.broker)
      (hbroker : s'.broker = e.deed.broker s.broker e.now)

theorem notes_ask (s : Scene J α) (i : Nat) (r : Request) (next : r.Answer → Work α) :
    s.Notes (s.ask i r next) := by
  cases hserve : s.schedule.serve i place r with
  | answered a t =>
      rw [ask_of_answered hserve]
      have hbroker := Schedule.broker_of_answered hserve
      exact .event _ rfl rfl hbroker
  | waits state t =>
      rw [ask_of_waits hserve]
      have hbroker := Schedule.broker_of_waits hserve
      exact .nothing rfl hbroker

theorem notes_act (s : Scene J α) (i : Nat) : s.Notes (s.act i) := by
  unfold act
  split
  next => exact .nothing rfl rfl
  next => exact s.notes_ask i _ _
  next =>
    split
    next => exact .event _ rfl rfl rfl
    next =>
      split
      next => exact .event _ rfl rfl rfl
      next => exact .nothing rfl rfl
  next =>
    split
    next => exact .event _ rfl rfl rfl
    next => exact .nothing rfl rfl
  next => exact .nothing rfl rfl

theorem notes_step (work : J → Work α) (s : Scene J α) (c : Choice J) :
    s.Notes (s.step work c) := by
  cases c with
  | begin job => exact .nothing rfl rfl
  | act i => exact s.notes_act i
  | cancel i =>
      rcases s.step_cancel work i with hsame | ⟨t, ht, -, hstep⟩
      · rw [hsame]
        exact .nothing rfl rfl
      · rw [hstep]
        refine .nothing rfl ?_
        change (s.schedule.cancel i).world.broker = s.schedule.world.broker
        rw [(Schedule.cancel_eq ht).2.2]
        rfl
  | operate o =>
      simp only [step]
      split
      next => exact .event _ rfl rfl rfl
      next => exact .nothing rfl rfl
  | pass millis => exact .nothing rfl rfl
  | bind bindings => exact .nothing rfl rfl
  | interrupt =>
      refine .nothing rfl ?_
      change (s.schedule.interrupt place).world.broker = s.schedule.world.broker
      rw [(s.schedule.interrupt_eq place).1]
      rfl
  | shutDown =>
      refine .nothing rfl ?_
      change (s.schedule.shutDown place).world.broker = s.schedule.world.broker
      rw [(s.schedule.shutDown_eq place).1]
      rfl

/-- The broker is what the operations so far have made of it, and a name that was ever known is
known for the same. -/
structure Chronicled (s : Scene J α) : Prop where
  broker : s.broker = ({} : Broker).after s.operations
  kinds : ∀ e ∈ s.past, ∀ name kind, e.before.broker.kind? name = some kind →
    s.broker.kind? name = some kind

theorem Chronicled.notes {s s' : Scene J α} (h : s.Chronicled) (hnotes : s.Notes s') :
    s'.Chronicled := by
  cases hnotes with
  | nothing hpast hbroker =>
      refine ⟨?_, ?_⟩
      · rw [operations, hpast, hbroker]
        exact h.broker
      · rw [hpast, hbroker]
        exact h.kinds
  | event e hpast hbefore hbroker =>
      -- an event may make a name known, but never for something else
      have hkept : ∀ name kind, s.broker.kind? name = some kind →
          s'.broker.kind? name = some kind := by
        intro name kind hkind
        rw [hbroker]
        cases hdeed : e.deed with
        | operated o => exact Broker.kind?_operate_of_known hkind e.now o
        | _ => exact hkind
      refine ⟨?_, ?_⟩
      · rw [operations, hpast, List.filterMap_append, Broker.after_append, ← operations, ← h.broker,
          hbroker]
        cases hdeed : e.deed <;> simp [Event.operation?, hdeed, Deed.broker]
      · rw [hpast]
        intro e' he' name kind hkind
        rcases List.mem_append.mp he' with hold | hnew
        · exact hkept name kind (h.kinds e' hold name kind hkind)
        · rw [List.mem_singleton.mp hnew, hbefore] at hkind
          exact hkept name kind hkind

theorem chronicled_run (work : J → Work α) (choices : List (Choice J)) :
    (({} : Scene J α).run work choices).Chronicled :=
  run_of_step (fun s c h => h.notes (s.notes_step work c)) ⟨rfl, by simp⟩ choices

end Scene

end Sluice
