import Sluice.Proofs.Task.Terms
import Sluice.Resources.Lifecycle

/-! # Work that sends nothing

Acquiring and releasing resources sends no message and waits for nothing but replies, whatever the
broker and the directory answer.
-/

namespace Sluice

namespace Request

/-- Whether a request sends nothing, and neither waits nor asks whether to wait. -/
def isDiscreet : Request → Bool
  | .call (.send _ _) => false
  | .call (.commit _) => false
  | .rest _ _ => false
  | .isShutDown => false
  | r => r.isInside

end Request

theorem Broker.delivered_of_isDiscreet {c : Call} (hc : (Request.call c).isDiscreet = true)
    (b : Broker) (now : Nat) : b.delivered now (.call c) = [] := by
  cases c <;> first | rfl | simp [Request.isDiscreet] at hc

namespace Work

variable {α β : Type}

/-- Work that sends nothing and does not wait, inside the lock. -/
def Discreet : Work α → Prop
  | .done _ => True
  | Script.ask r next => r.isDiscreet = true ∧ ∀ a, Discreet (next a)

theorem discreet_bind {w : Work α} {f : α → Work β} (h : w.Discreet) (hf : ∀ x, (f x).Discreet) :
    (w >>= f).Discreet := by
  induction w with
  | done x => exact hf x
  | ask r next ih => exact ⟨h.1, fun a => ih a (h.2 a)⟩

theorem discreet_ask {r : Request} {f : r.Answer → Work β} (hr : r.isDiscreet = true)
    (hf : ∀ a, (f a).Discreet) : (Work.ask r >>= f).Discreet :=
  ⟨hr, hf⟩

theorem discreet_done (x : α) : Discreet (Script.done x) := trivial

theorem discreet_openProducer (settings : ConnectionSettings) (session : Handle .session)
    (d : Destination) : (Manager.openProducer settings session d).Discreet := by
  apply discreet_ask rfl
  intro reply
  cases reply with
  | error cause => exact discreet_done _
  | ok p =>
      apply discreet_ask rfl
      intro reply
      cases reply with
      | ok u => exact discreet_done _
      | error cause => exact discreet_ask rfl fun _ => discreet_done _

theorem discreet_openSession (settings : ConnectionSettings) (connection : Handle .connection)
    (d : Destination) : (Manager.openSession settings connection d).Discreet := by
  apply discreet_ask rfl
  intro reply
  cases reply with
  | error cause => exact discreet_done _
  | ok session =>
      apply discreet_bind (discreet_openProducer settings session d)
      intro opened
      cases opened with
      | error e => exact discreet_ask rfl fun _ => discreet_done _
      | ok p =>
          apply discreet_ask rfl
          intro reply
          cases reply with
          | ok u => exact discreet_done _
          | error cause =>
              exact discreet_ask rfl fun _ => discreet_ask rfl fun _ => discreet_done _

theorem discreet_openResources (settings : ConnectionSettings) (d : Destination) :
    (Manager.openResources settings d).Discreet := by
  apply discreet_ask rfl
  intro reply
  cases reply with
  | error cause => exact discreet_done _
  | ok connection =>
      apply discreet_bind (discreet_openSession settings connection d)
      intro opened
      cases opened with
      | ok pair => exact discreet_done _
      | error e => exact discreet_ask rfl fun _ => discreet_done _

theorem discreet_acquire (config : Config) (files : Files) (defaults : Properties) :
    (Manager.acquire config files defaults).Discreet := by
  unfold Manager.acquire
  split
  next => exact discreet_done _
  next name _ =>
    split
    next => exact discreet_done _
    next properties _ =>
      unfold Manager.resolveDestination Manager.resolveFactory
      rw [bind_assoc]
      apply discreet_ask rfl
      intro found
      cases found with
      | error cause => exact discreet_done _
      | ok entry =>
          cases entry with
          | connectionFactory => exact discreet_done _
          | destination d =>
              apply discreet_ask rfl
              intro found
              cases found with
              | error cause => exact discreet_done _
              | ok entry =>
                  cases entry with
                  | destination d' => exact discreet_done _
                  | connectionFactory => exact discreet_openResources config.connection d

theorem discreet_start (config : Config) (files : Files) (defaults : Properties) :
    (Manager.start config files defaults).Discreet := by
  apply discreet_ask rfl
  intro x
  split
  next => exact discreet_done _
  next =>
    apply discreet_ask rfl
    intro _
    apply discreet_bind (discreet_acquire config files defaults)
    intro acquired
    cases acquired with
    | ok held => exact discreet_ask rfl fun _ => discreet_done _
    | error e => exact discreet_ask rfl fun _ => discreet_done _

theorem discreet_close : Manager.close.Discreet := by
  apply discreet_ask rfl
  intro x
  split
  next => exact discreet_done _
  next =>
    apply discreet_ask rfl
    intro _
    split
    next => exact discreet_ask rfl fun _ => discreet_done _
    next =>
      refine discreet_bind ?_ fun _ => discreet_ask rfl fun _ => discreet_done _
      exact discreet_ask rfl fun _ => discreet_ask rfl fun _ => discreet_ask rfl fun _ =>
        discreet_ask rfl fun _ => discreet_done _

end Work

end Sluice
