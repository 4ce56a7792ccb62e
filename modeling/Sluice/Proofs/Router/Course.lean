import Sluice.Proofs.Resources.Order
import Sluice.Router.Basic

/-! # What a course of events comes to

While a router publishes, only three things may become of the broker: a message is added to the
destination of the router, expired messages are dropped there, and an armed fault is used up. Over a
course of events the messages and the faults add up.
-/

namespace Sluice

/-- The fault that an error reports. -/
def BrokerError.injected : BrokerError → List FaultPoint
  | .transport (.injected point) => [point]
  | _ => []

namespace Broker

/-- The fault that a reply reports. -/
def spent {α : Type} : Except BrokerError α → List FaultPoint
  | .error e => e.injected
  | .ok _ => []

variable {b b' : Broker} {now : Nat}

theorem armed_dropConnection (b : Broker) (c : Handle .connection) :
    (b.dropConnection c).armed = b.armed := by
  unfold dropConnection
  split <;> rfl

theorem armed_dropSession (b : Broker) (s : Handle .session) :
    (b.dropSession s).armed = b.armed := by
  unfold dropSession
  dsimp only
  split <;> rfl

theorem armed_dropProducer (b : Broker) (p : Handle .producer) :
    (b.dropProducer p).armed = b.armed := by
  unfold dropProducer
  split <;> rfl

theorem injected_of_ne {e : BrokerError} (h : ∀ fault, e ≠ .transport fault) : e.injected = [] := by
  cases e with
  | transport fault => exact absurd rfl (h fault)
  | _ => rfl

theorem Reported.spent {point : FaultPoint} {reply : Except BrokerError Unit} {met : Broker}
    (h : b.Reported point reply met) :
    (∀ p ∈ Broker.spent reply, p ∈ b.armed) ∧
      met.armed = b.armed.filter (· ∉ Broker.spent reply) := by
  cases h with
  | well h => simp [Broker.spent]
  | ill h => simpa [Broker.spent, BrokerError.injected, disarm] using h

/-- A call uses up the armed fault that it reports, and no other. -/
theorem Effect.spent {c : Call} {reply : c.Reply} (h : b.Effect now c reply b') :
    (∀ point ∈ Broker.spent reply, point ∈ b.armed) ∧
      b'.armed = b.armed.filter (· ∉ Broker.spent reply) := by
  have hsame : ∀ {α : Type} {x : α} {b' : Broker}, b'.armed = b.armed →
      (∀ point ∈ Broker.spent (.ok x), point ∈ b.armed) ∧
        b'.armed = b.armed.filter (· ∉ Broker.spent (.ok x)) := by
    intro α x b' harmed
    simp [Broker.spent, harmed]
  cases h with
  | refused e he hc => simp [Broker.spent, injected_of_ne he]
  | faulted hpoint harmed hc => simpa [Broker.spent, BrokerError.injected, disarm] using harmed
  | disconnected c h => exact ⟨h.spent.1, (armed_dropConnection _ c).trans h.spent.2⟩
  | sessionClosed s h => exact ⟨h.spent.1, (armed_dropSession _ s).trans h.spent.2⟩
  | producerClosed p h => exact ⟨h.spent.1, (armed_dropProducer _ p).trans h.spent.2⟩
  | committed s hopen hpending =>
      apply hsame
      rw [deliverAll_mailboxes]
      rfl
  | _ => exact hsame rfl

theorem get?_deliverAll (b : Broker) {parcels : List Parcel} {name : String}
    (h : ∀ p ∈ parcels, p.destination ≠ name) :
    (b.deliverAll parcels).mailboxes.get? name = b.mailboxes.get? name := by
  induction parcels generalizing b with
  | nil => rfl
  | cons p rest ih =>
      change ((b.deliver p).deliverAll rest).mailboxes.get? name = _
      rw [ih (b.deliver p) fun q hq => h q (List.mem_cons_of_mem p hq)]
      simp only [deliver, Keyed.get?_insert]
      rw [if_neg (h p List.mem_cons_self)]

theorem get?_purge (b : Broker) {now : Nat} {name other : String} (h : name ≠ other) :
    (b.purge now name).mailboxes.get? other = b.mailboxes.get? other := by
  simp [purge, h]

end Broker

/-- What an event did while a manager kept a destination supplied: it used up armed faults, and it
added messages at the end of those that wait there. It changed no other destination, and nothing
waits less there than what is expired. -/
structure Event.Does (e : Event) (x : Manager) (name : String) (spent : List FaultPoint)
    (sent : List Parcel) : Prop where
  before : e.before.manager = x
  after : e.after.manager = x
  present : ∀ point ∈ spent, point ∈ e.before.broker.armed
  armed : e.after.broker.armed = e.before.broker.armed.filter (· ∉ spent)
  kind : e.after.broker.kind? name =
    if sent = [] then e.before.broker.kind? name
    else some ((e.before.broker.kind? name).getD .queue)
  waiting : e.after.broker.waiting name = e.before.broker.waiting name ++ sent ∨
    sent = [] ∧ e.after.broker.waiting name =
      (e.before.broker.waiting name).filter fun p => !p.isExpired e.now
  others : ∀ other, other ≠ name →
    e.after.broker.mailboxes.get? other = e.before.broker.mailboxes.get? other

/-- Events in the course of which faults were used up and messages were sent to a destination, and
nothing else became of the broker. -/
inductive Course (x : Manager) (name : String) :
    List FaultPoint → List Parcel → List Event → Prop
  | nil : Course x name [] [] []
  | snoc {spent spent' : List FaultPoint} {sent sent' : List Parcel} {events : List Event}
      {e : Event} (h : Course x name spent sent events) (hdoes : e.Does x name spent' sent') :
      Course x name (spent ++ spent') (sent ++ sent') (events ++ [e])

namespace Course

variable {x : Manager} {name : String} {spent spent' : List FaultPoint} {sent sent' : List Parcel}
variable {events : List Event} {e : Event}

theorem manager (h : Course x name spent sent events) :
    ∀ e ∈ events, e.before.manager = x ∧ e.after.manager = x := by
  induction h with
  | nil => simp
  | snoc h hdoes ih =>
      intro e he
      rcases List.mem_append.mp he with hold | hnew
      · exact ih e hold
      · rw [List.mem_singleton.mp hnew]
        exact ⟨hdoes.before, hdoes.after⟩

/-- An event that used up no fault and sent nothing. -/
theorem quiet (h : Course x name spent sent events) (hdoes : e.Does x name [] []) :
    Course x name spent sent (events ++ [e]) := by
  simpa using h.snoc hdoes

end Course

namespace Event

theorem does_nothing {e : Event} (h : e.after = e.before) (name : String) :
    e.Does e.before.manager name [] [] where
  before := rfl
  after := by rw [h]
  present := by simp
  armed := by simp [h]
  kind := by rw [h, if_pos rfl]
  waiting := .inl (by simp [h])
  others _ _ := by rw [h]

/-- A call that looks at no depth elsewhere and sends nothing elsewhere. -/
theorem does_called {m : Moment} {i : Nat} {c : Call} {reply : c.Reply} {b : Broker} {name : String}
    (hperform : m.broker.perform m.now c = (reply, b))
    (hbrowse : ∀ w r, c = .browse w → m.broker.openBrowser? w = some r → r.destination = name)
    (hsent : ∀ p ∈ m.broker.delivered m.now (.call c), p.destination = name) :
    (Event.mk (some i) (.operated (.call c)) m.now m.toGround ⟨b, m.manager⟩).Does m.manager name
      (Broker.spent reply) (m.broker.delivered m.now (.call c)) := by
  have heffect := Broker.effect_of_perform hperform
  have hmailboxes := m.broker.mailboxes_perform m.now c
  rw [hperform] at hmailboxes
  refine ⟨rfl, rfl, heffect.spent.1, heffect.spent.2, ?_, ?_, ?_⟩
  · rcases hmailboxes with h | ⟨w, r, rfl, hopen, h⟩
    · refine (Broker.kind?_congr h name).trans ?_
      rw [Broker.kind?_deliverAll]
      generalize m.broker.delivered m.now (.call c) = parcels at hsent
      cases parcels with
      | nil => simp
      | cons p rest => simp [hsent p List.mem_cons_self]
    · exact (Broker.kind?_congr h name).trans (Broker.kind?_purge _ _ _ _)
  -- only a look at the depth takes messages away, and only those that are expired
  · rcases hmailboxes with h | ⟨w, r, rfl, hopen, h⟩
    · left
      refine (Broker.waiting_congr h name).trans ?_
      rw [Broker.waiting_deliverAll]
      congr 1
      rw [List.filter_eq_self]
      intro p hp
      simpa using hsent p hp
    · refine .inr ⟨rfl, (Broker.waiting_congr h name).trans ?_⟩
      rw [Broker.waiting_purge, if_pos (hbrowse w r rfl hopen)]
  · intro other hother
    rcases hmailboxes with h | ⟨w, r, rfl, hopen, h⟩
    · refine (congrArg (Keyed.get? · other) h).trans (Broker.get?_deliverAll _ fun p hp heq => ?_)
      exact hother (heq.symm.trans (hsent p hp))
    · refine (congrArg (Keyed.get? · other) h).trans (Broker.get?_purge _ fun heq => ?_)
      exact hother (heq.symm.trans (hbrowse w r rfl hopen))

end Event

end Sluice
