import Sluice.Proofs.Admission.Rests
import Sluice.Proofs.Task.Calls
import Sluice.Router.Basic

/-! # The script of a publishing

A message that was prepared waits for capacity, and what comes after the wait does nothing but make
calls. A message that could not be prepared leads to nothing at all. So what holds of waits, and of
whoever only makes calls, holds of publishings.
-/

namespace Sluice

namespace Work

variable {α β : Type} {rounds : Nat}

/-- Work that does nothing but make calls. -/
def Calls : Work α → Prop
  | .done _ => True
  | Script.ask r next => (∃ c, r = .call c) ∧ ∀ a, Calls (next a)

theorem calls_done (x : α) : Calls (Script.done x) := trivial

theorem calls_call {c : Call} {f : c.Reply → Work α} (hf : ∀ reply, (f reply).Calls) :
    (Work.call c >>= f).Calls :=
  ⟨⟨c, rfl⟩, hf⟩

theorem calls_bind {w : Work α} {f : α → Work β} (h : w.Calls) (hf : ∀ x, (f x).Calls) :
    (w >>= f).Calls := by
  induction w with
  | done x => exact hf x
  | ask r next ih => exact ⟨h.1, fun a => ih a (h.2 a)⟩

theorem Calls.honours {A : Agreement} {w : Work α} (h : w.Calls) (hmay : ∀ c, A.may (.call c)) :
    w.Honours A fun _ => True := by
  induction w with
  | done x => trivial
  | ask r next ih =>
      obtain ⟨⟨c, rfl⟩, hnext⟩ := h
      exact ⟨hmay c, fun a _ => ih a (hnext a)⟩

theorem Calls.guarded {P : Work α → Prop} {w : Work α} (h : w.Calls) : w.Guarded rounds P := by
  induction w with
  | done x => trivial
  | ask r next ih =>
      obtain ⟨⟨c, rfl⟩, hnext⟩ := h
      exact ⟨by simp, by simp [Request.isRest], by simp, fun a _ => ih a (hnext a)⟩

theorem calls_deliver (held : Resources) (m : Message) : (Router.deliver held m).Calls := by
  have hrollback : ∀ cause : BrokerError, (do
      if held.transacted then
        Manager.tryCall (.rollback held.session)
      return .error cause : Work (Except BrokerError Unit)).Calls := by
    intro cause
    cases held.transacted with
    | false => exact calls_done _
    | true => exact calls_call fun _ => calls_done _
  refine calls_call fun reply => ?_
  cases reply with
  | error cause => exact hrollback cause
  | ok u =>
      dsimp only
      split
      next =>
        refine calls_call fun reply => ?_
        cases reply with
        | error cause => exact calls_call fun _ => calls_done _
        | ok u => exact calls_done _
      next => exact calls_done _

end Work

namespace Router

/-- What is done with a message that was let through, or not. -/
def admitted (r : Router) (held : Resources) (m : Message) :
    Except AdmissionError Admission → Work (Except RouterError Unit)
  | .error (.timedOut depth) =>
      return .error (.backpressureTimeout held.destination.name r.config.admission.highWaterMark
        r.config.admission.timeout depth)
  | .error (.stalled depth) => return .error (.stalled held.destination.name depth)
  | .error (.inspection cause) => return .error (.admissionCheck held.destination.name cause)
  | .ok _ => do
      match ← deliver held m with
      | .ok _ => return .ok ()
      | .error cause => return .error (.publish held.destination.name cause)

variable {r : Router} {values : Context} {held : Resources} {m : Message} {e : RouterError}

theorem publishWith_prepared (h : r.prepare values = .ok m) :
    r.publishWith held values =
      r.config.admission.awaitCapacity held.session held.destination >>= r.admitted held m := by
  unfold publishWith
  rw [h]
  refine congrArg (_ >>= ·) (funext fun outcome => ?_)
  cases outcome with
  | error e => cases e <;> rfl
  | ok a => rfl

theorem publishWith_unprepared (h : r.prepare values = .error e) :
    r.publishWith held values = Script.done (.error e) := by
  unfold publishWith
  rw [h]
  rfl

end Router

namespace Work

variable {r : Router} {held : Resources}

theorem calls_admitted (m : Message) (outcome : Except AdmissionError Admission) :
    (r.admitted held m outcome).Calls := by
  cases outcome with
  | error e => cases e <;> exact calls_done _
  | ok a =>
      refine calls_bind (calls_deliver held m) fun sent => ?_
      cases sent <;> exact calls_done _

/-- Publishing is carried out on whatever a wait is carried out on, if calls may be made. -/
theorem honours_publishWith {A : Agreement} (hsuits : Suits r.config.admission A fun _ => True)
    (hmay : ∀ c, A.may (.call c)) (values : Context) :
    (r.publishWith held values).Honours A fun _ => True := by
  cases h : r.prepare values with
  | error e =>
      rw [Router.publishWith_unprepared h]
      exact honours_done trivial
  | ok m =>
      rw [Router.publishWith_prepared h]
      exact (honours_awaitCapacity hsuits _ _ (hmay _)).bind fun outcome _ =>
        (calls_admitted m outcome).honours hmay

end Work

end Sluice
