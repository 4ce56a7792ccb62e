import Sluice.Proofs.Router.Course

/-! # Failed operations change nothing

A call that is answered with an error leaves a broker in memory as it was, except that a reported
fault is not armed any more. Only closing is different: it takes effect even when a fault is
reported after it. Then one record is shut, and one handle fewer counts as open if it was open
before.
-/

namespace Sluice

/-- The record of a handle that is closed: what a session has put aside is discarded. -/
def Record.shut : Record → Record
  | .connection _ => .connection false
  | .session r => .session { isOpen := false, pending := r.pending.map fun _ => [] }
  | .producer r => .producer { r with isOpen := false }
  | .browser r => .browser { r with isOpen := false }

theorem Record.isOpen_shut (r : Record) : r.shut.isOpen = false := by
  cases r <;> rfl

namespace Operation

/-- The error with which an operation is answered. Only calls through handles can fail. -/
def error? : (o : Operation) → o.Answer → Option BrokerError
  | .call _, .error e => some e
  | _, _ => none

/-- The handle that an operation closes. -/
def closes : Operation → Option AnyHandle
  | .call c => c.closes
  | _ => none

theorem error?_call {c : Call} {reply : c.Reply} {e : BrokerError}
    (h : error? (.call c) reply = some e) : reply = .error e := by
  cases reply with
  | error e' => exact congrArg Except.error (Option.some.inj h)
  | ok x => cases h

end Operation

namespace Broker

variable {b b' : Broker} {now : Nat}

/-! ### Counts of open handles -/

theorem Counted.operate (hcounted : b.Counted) (now : Nat) (o : Operation) :
    (b.operate now o).2.Counted := by
  by_cases hcall : ∃ c, o = .call c
  · obtain ⟨c, rfl⟩ := hcall
    exact (b.booked_perform now c).counted hcounted
  · have hsame := b.sameHandles_operate now o fun c hc => hcall ⟨c, hc⟩
    intro kind
    rw [hsame.openHandles, hsame.records]
    exact hcounted kind

theorem Counted.after (hcounted : b.Counted) (run : List (Nat × Operation)) :
    (b.after run).Counted := by
  induction run generalizing b with
  | nil => exact hcounted
  | cons step rest ih => exact ih (hcounted.operate step.1 step.2)

/-! ### Shutting one record -/

section Modify

variable {α β : Type} {l : List α} {i : Nat} {f g : α → α}

theorem modify_congr (h : ∀ x, l[i]? = some x → f x = g x) : l.modify i f = l.modify i g := by
  apply List.ext_getElem?
  intro j
  rw [List.getElem?_modify, List.getElem?_modify]
  cases hx : l[j]? with
  | none => rfl
  | some x =>
      by_cases hij : i = j
      · subst hij
        simp [h x hx]
      · simp [hij]

theorem modify_eq_self_of_fixed (h : ∀ x, l[i]? = some x → f x = x) : l.modify i f = l :=
  (modify_congr h).trans (List.modify_id i l)

theorem map_modify (c : α → β) {d : β → β} (h : ∀ x, c (f x) = d (c x)) :
    (l.modify i f).map c = (l.map c).modify i d := by
  apply List.ext_getElem?
  intro j
  rw [List.getElem?_map, List.getElem?_modify, List.getElem?_modify, List.getElem?_map]
  cases l[j]? with
  | none => rfl
  | some x => by_cases hij : i = j <;> simp [hij, h]

end Modify

/-- The record of one handle is shut, and no other record changes. -/
def ShutsRecord (b b' : Broker) (h : AnyHandle) : Prop :=
  ∀ kind, b'.records kind =
    if kind = h.kind then (b.records kind).modify h.index Record.shut else b.records kind

theorem shutsRecord_dropConnection (b : Broker) (c : Handle .connection) :
    b.ShutsRecord (b.dropConnection c) c.any := by
  have hconnections : (b.dropConnection c).connections =
      b.connections.modify c.index fun _ => false := by
    unfold dropConnection
    split
    next => exact List.set_eq_modify false c.index b.connections
    next hopen =>
      refine (modify_eq_self_of_fixed fun isOpen hc => ?_).symm
      simpa [connectionOpen, hc] using hopen
  intro kind
  cases kind with
  | connection =>
      rw [records, hconnections]
      exact map_modify Record.connection fun _ => rfl
  | _ =>
      unfold dropConnection
      split <;> rfl

theorem shutsRecord_dropSession (b : Broker) (s : Handle .session) :
    b.ShutsRecord (b.dropSession s) s.any := by
  have hsessions : (b.dropSession s).sessions =
      b.sessions.modify s.index fun r =>
        { isOpen := false, pending := r.pending.map fun _ => [] } := by
    unfold dropSession
    dsimp only
    rw [sessionOpen_modifySession _ _ _ (by intro r; rfl)]
    split
    next => exact List.modify_modify_eq _ _ _ _
    next hopen =>
      refine modify_congr fun r hs => ?_
      have hclosed : r.isOpen = false := by simpa [sessionOpen, hs] using hopen
      rw [hclosed]
  intro kind
  cases kind with
  | session =>
      rw [records, hsessions]
      exact map_modify Record.session fun _ => rfl
  | _ =>
      unfold dropSession
      dsimp only
      split <;> rfl

theorem shutsRecord_dropProducer (b : Broker) (p : Handle .producer) :
    b.ShutsRecord (b.dropProducer p) p.any := by
  have hproducers : (b.dropProducer p).producers =
      b.producers.modify p.index fun r => { r with isOpen := false } := by
    unfold dropProducer
    split
    next hnone =>
      refine (modify_eq_self_of_fixed fun r hp => ?_).symm
      have hclosed : r.isOpen = false := by simpa [openProducer?, hp] using hnone
      rw [← hclosed]
    next => rfl
  intro kind
  cases kind with
  | producer =>
      rw [records, hproducers]
      exact map_modify Record.producer fun _ => rfl
  | _ =>
      unfold dropProducer
      split <;> rfl

theorem shutsRecord_of_no_browser {w : Handle .browser} (hgone : b.openBrowser? w = none) :
    b.ShutsRecord b w.any := by
  have hbrowsers : b.browsers = b.browsers.modify w.index fun r => { r with isOpen := false } := by
    refine (modify_eq_self_of_fixed fun r hw => ?_).symm
    have hclosed : r.isOpen = false := by simpa [openBrowser?, hw] using hgone
    rw [← hclosed]
  intro kind
  cases kind with
  | browser => exact (congrArg _ hbrowsers).trans (map_modify Record.browser fun _ => rfl)
  | _ => rfl

theorem shutsRecord_closeBrowser (b : Broker) (w : Handle .browser) :
    b.ShutsRecord (countClosed
      { b with browsers := b.browsers.modify w.index fun r => { r with isOpen := false } }
      .browser) w.any := by
  intro kind
  cases kind with
  | browser => exact map_modify Record.browser fun _ => rfl
  | _ => rfl

theorem ShutsRecord.of_sameHandles {met : Broker} {h : AnyHandle} (hsame : b.SameHandles met)
    (hshuts : met.ShutsRecord b' h) : b.ShutsRecord b' h := by
  intro kind
  rw [hshuts kind, hsame.records]

theorem ShutsRecord.record? {h : AnyHandle} (hshuts : b.ShutsRecord b' h) (k : AnyHandle) :
    b'.record? k = if k = h then (b.record? k).map Record.shut else b.record? k := by
  rw [Broker.record?, hshuts k.kind]
  by_cases hkind : k.kind = h.kind
  · rw [if_pos hkind, List.getElem?_modify, ← Broker.record?]
    by_cases hindex : h.index = k.index
    · simp [AnyHandle.ext hkind hindex.symm]
    · have hne : k ≠ h := fun heq => hindex (heq ▸ rfl)
      simp [hindex, hne]
  · have hne : k ≠ h := fun heq => hkind (heq ▸ rfl)
    rw [if_neg hkind, if_neg hne, Broker.record?]

/-- One handle fewer is counted if the handle was open. -/
theorem ShutsRecord.count {h : AnyHandle} (hshuts : b.ShutsRecord b' h) (hcounted : b.Counted)
    (hcounted' : b'.Counted) (kind : HandleKind) :
    b'.openHandles.count kind + (if kind = h.kind then (b.isOpen h).toNat else 0) =
      b.openHandles.count kind := by
  rw [hcounted kind, hcounted' kind, hshuts kind]
  split
  next hkind =>
    subst hkind
    rw [List.modify_eq_set_getElem?, isOpen, Broker.record?]
    cases hr : (b.records h.kind)[h.index]? with
    | none => rfl
    | some r =>
        have hset := countP_set hr r.shut
        rw [Record.isOpen_shut] at hset
        simpa using hset
  next => rfl

/-! ### What closing leaves alone -/

/-- The parts of a broker that are not about handles and faults are the same. -/
structure SameContents (b b' : Broker) : Prop where
  mailboxes : b'.mailboxes = b.mailboxes
  required : b'.required = b.required
  nextSerial : b'.nextSerial = b.nextSerial

theorem sameContents_dropConnection (b : Broker) (c : Handle .connection) :
    b.SameContents (b.dropConnection c) := by
  unfold dropConnection
  split <;> exact ⟨rfl, rfl, rfl⟩

theorem sameContents_dropSession (b : Broker) (s : Handle .session) :
    b.SameContents (b.dropSession s) := by
  unfold dropSession
  dsimp only
  split <;> exact ⟨rfl, rfl, rfl⟩

theorem sameContents_dropProducer (b : Broker) (p : Handle .producer) :
    b.SameContents (b.dropProducer p) := by
  unfold dropProducer
  split <;> exact ⟨rfl, rfl, rfl⟩

/-- Using up a fault does not change contents. -/
theorem SameContents.of_disarm {point : FaultPoint} (hsame : (b.disarm point).SameContents b') :
    b.SameContents b' :=
  ⟨hsame.mailboxes, hsame.required, hsame.nextSerial⟩

/-- However a closing is reported, the record of the handle is shut. -/
theorem Effect.shuts {c : Call} {reply : c.Reply} {h : AnyHandle}
    (heffect : b.Effect now c reply b') (hc : c.closes = some h) : b.ShutsRecord b' h := by
  cases heffect with
  -- calls that close are never refused, and their faults are reported only
  | refused e he hclosing => simp [Call.isClosing_of_closes hc] at hclosing
  | faulted hpoint harmed hclosing => simp [Call.isClosing_of_closes hc] at hclosing
  | disconnected c hreported =>
      obtain rfl := Option.some.inj hc
      exact (shutsRecord_dropConnection _ c).of_sameHandles hreported.sameHandles
  | sessionClosed s hreported =>
      obtain rfl := Option.some.inj hc
      exact (shutsRecord_dropSession _ s).of_sameHandles hreported.sameHandles
  | producerClosed p hreported =>
      obtain rfl := Option.some.inj hc
      exact (shutsRecord_dropProducer _ p).of_sameHandles hreported.sameHandles
  | browserGone w hgone =>
      obtain rfl := Option.some.inj hc
      exact shutsRecord_of_no_browser hgone
  | browserClosed w hopen =>
      obtain rfl := Option.some.inj hc
      exact shutsRecord_closeBrowser b w
  | _ => simp [Call.closes] at hc

/-! ### Failures -/

theorem injected_eq_nil {e : BrokerError} (h : ∀ point, e ≠ .transport (.injected point)) :
    e.injected = [] := by
  unfold BrokerError.injected
  split
  next point => exact absurd rfl (h point)
  next => rfl

/-- The fault that an error reports was armed and is not any more; an error that reports none uses
up none. -/
theorem Effect.armed_of_failed {c : Call} {e : BrokerError} (h : b.Effect now c (.error e) b') :
    (∀ point, e = .transport (.injected point) →
        point ∈ b.armed ∧ b'.armed = b.armed.filter (· ≠ point)) ∧
      ((∀ point, e ≠ .transport (.injected point)) → b'.armed = b.armed) := by
  have hspent := h.spent
  constructor
  · rintro point rfl
    simpa [Broker.spent, BrokerError.injected] using hspent
  · intro he
    simpa [Broker.spent, injected_eq_nil he] using hspent.2

/-- A call that fails and closes nothing only uses up a fault, if it does anything. -/
theorem Effect.eq_of_failed {c : Call} {e : BrokerError} (h : b.Effect now c (.error e) b')
    (hc : c.closes = none) : b' = { b with armed := b'.armed } := by
  cases h with
  | refused => rfl
  | faulted => rfl
  | disconnected => cases hc
  | sessionClosed => cases hc
  | producerClosed => cases hc

theorem Reported.failed {point : FaultPoint} {e : BrokerError} {met : Broker}
    (h : b.Reported point (.error e) met) :
    e = .transport (.injected point) ∧ met = b.disarm point := by
  cases h
  exact ⟨rfl, rfl⟩

/-- A call that fails and closes a handle reports a fault, and the handle is closed. -/
theorem Effect.shuts_of_failed {c : Call} {e : BrokerError} {h : AnyHandle}
    (heffect : b.Effect now c (.error e) b') (hc : c.closes = some h) :
    (∃ point, e = .transport (.injected point)) ∧ h.kind ≠ .browser ∧
      b.SameContents b' ∧ b.ShutsRecord b' h := by
  have hshuts := heffect.shuts hc
  cases heffect with
  | refused _ he hclosing => simp [Call.isClosing_of_closes hc] at hclosing
  | faulted hpoint harmed hclosing => simp [Call.isClosing_of_closes hc] at hclosing
  | disconnected c hreported =>
      obtain rfl := Option.some.inj hc
      obtain ⟨rfl, rfl⟩ := hreported.failed
      exact ⟨⟨_, rfl⟩, by simp [Handle.any], (sameContents_dropConnection _ c).of_disarm, hshuts⟩
  | sessionClosed s hreported =>
      obtain rfl := Option.some.inj hc
      obtain ⟨rfl, rfl⟩ := hreported.failed
      exact ⟨⟨_, rfl⟩, by simp [Handle.any], (sameContents_dropSession _ s).of_disarm, hshuts⟩
  | producerClosed p hreported =>
      obtain rfl := Option.some.inj hc
      obtain ⟨rfl, rfl⟩ := hreported.failed
      exact ⟨⟨_, rfl⟩, by simp [Handle.any], (sameContents_dropProducer _ p).of_disarm, hshuts⟩

/-- A call can only fail because a handle is closed, because it is not offered, because the
credentials are wrong, or because a fault is armed. -/
theorem perform_error_cases {c : Call} {e : BrokerError} (h : (b.perform now c).1 = .error e) :
    (∃ kind, e = .closed kind) ∨ (∃ principal, e = .authentication principal) ∨
      (∃ feature, e = .unsupported feature) ∨ ∃ point, e = .transport (.injected point) := by
  -- every call asks the same few questions, and each has its own error
  cases c <;> simp only [perform, createConnection, refusal, startConnection, stopConnection,
    gateConnection, closeConnection, createSession, commit, rollback, closeSession, createProducer,
    applySettings, send, closeProducer, createBrowser, browse, closeBrowser, attempt, closing] at h
  all_goals grind

/-- An operation that is answered with an error leaves every reachable broker as it was, but for the
fault that the error reports, if it reports one. If it closes a handle, the error does report a
fault; the handle is closed nevertheless, is not counted any more if it was open, and what it has
put aside is gone. -/
theorem failure_atomic (run : List (Nat × Operation)) (now : Nat) {o : Operation} {e : BrokerError}
    (h : o.error? ((Broker.after {} run).operate now o).1 = some e) :
    let b := Broker.after {} run
    let b' := (b.operate now o).2
    ((∃ kind, e = .closed kind) ∨ (∃ principal, e = .authentication principal) ∨
        (∃ feature, e = .unsupported feature) ∨ ∃ point, e = .transport (.injected point)) ∧
      (∀ point, e = .transport (.injected point) →
        point ∈ b.armed ∧ b'.armed = b.armed.filter (· ≠ point)) ∧
      ((∀ point, e ≠ .transport (.injected point)) → b'.armed = b.armed) ∧
      (o.closes = none → b' = { b with armed := b'.armed }) ∧
      ∀ handle, o.closes = some handle →
        (∃ point, e = .transport (.injected point)) ∧ handle.kind ≠ .browser ∧ b.SameContents b' ∧
          (∀ k, b'.record? k = if k = handle then (b.record? k).map Record.shut else b.record? k) ∧
          ∀ kind, b'.openHandles.count kind +
            (if kind = handle.kind then (b.isOpen handle).toNat else 0) =
              b.openHandles.count kind := by
  intro b b'
  have hcounted : b.Counted := keeps_new.counted.after run
  have hcounted' : b'.Counted := hcounted.operate now o
  cases o with
  | call c =>
      have heffect := b.perform_effect now c
      have hreply : (b.perform now c).1 = .error e := Operation.error?_call h
      rw [hreply] at heffect
      refine ⟨perform_error_cases hreply, heffect.armed_of_failed.1, heffect.armed_of_failed.2,
        heffect.eq_of_failed, fun handle hc => ?_⟩
      obtain ⟨hfault, hkind, hsame, hshuts⟩ := heffect.shuts_of_failed hc
      exact ⟨hfault, hkind, hsame, hshuts.record?, hshuts.count hcounted hcounted'⟩
  | _ => cases h

/-- Closing a transacted session with a message put aside, when faults are armed for closing and for
committing. -/
theorem failure_atomic_closing :
    let session : Handle .session := ⟨0⟩
    let message : Message := { body := .text "late" }
    let run : List (Nat × Operation) := [
      (0, .call (.createConnection none)), (0, .call (.createSession ⟨0⟩ true .auto)),
      (0, .call (.createProducer session (.queue "orders"))), (1, .call (.send ⟨0⟩ message)),
      (2, .failNext .closeSession), (2, .failNext .commit)]
    let b := Broker.after {} run
    let b' := (b.perform 3 (.closeSession session)).2
    (b.perform 3 (.closeSession session)).1 = .error (.transport (.injected .closeSession)) ∧
      (b.pending session).map List.length = some 1 ∧ b'.armed = [.commit] ∧
      b'.record? session.any = some (.session { isOpen := false, pending := some [] }) ∧
      b'.record? ⟨.producer, 0⟩ = b.record? ⟨.producer, 0⟩ ∧
      b.openHandles.sessions = 1 ∧ b'.openHandles.sessions = 0 := by
  intro session message run b b'
  obtain ⟨-, hfault, -, -, hclosing⟩ :=
    failure_atomic run 3 (o := .call (.closeSession session)) (e := _) rfl
  obtain ⟨-, -, -, hrecord, hcount⟩ := hclosing session.any rfl
  refine ⟨rfl, rfl, (hfault _ rfl).2, hrecord session.any, hrecord ⟨.producer, 0⟩, rfl, ?_⟩
  exact Nat.add_right_cancel (hcount .session)

end Broker

end Sluice
