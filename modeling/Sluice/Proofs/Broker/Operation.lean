import Mathlib.Data.List.Basic
import Sluice.Broker.Call
import Sluice.Proofs.Keyed

/-! # Operations on the broker in memory

Everything that anybody can do with a broker at one time: calls through handles, and what its owner
does directly. Of an operation only two things matter to the destinations: which messages it
delivers, and which it takes away. A destination keeps the kind with which it became known.
-/

namespace Sluice

/-- What is expired stays so. -/
theorem Parcel.isExpired_of_le {p : Parcel} {now later : Nat} (hle : now ≤ later)
    (h : p.isExpired now = true) : p.isExpired later = true := by
  unfold isExpired at h ⊢
  cases hexpires : p.expiresAt with
  | none => simp [hexpires] at h
  | some time =>
      simp only [hexpires, Option.any_some, decide_eq_true_eq] at h ⊢
      omega

/-- What can be done with a broker. -/
inductive Operation where
  | declare (d : Destination)
  | inject (d : Destination) (m : Message)
  | depth (name : String)
  | receive (name : String)
  | drain (name : String)
  | clear (name : String)
  | requireCredentials (c : Credentials)
  | failNext (point : FaultPoint)
  | call (c : Call)

/-- What an operation answers. -/
def Operation.Answer : Operation → Type
  | .depth _ => Nat
  | .receive _ => Option Parcel
  | .drain _ => List Parcel
  | .call c => c.Reply
  | _ => Unit

namespace Broker

/-- Carry out an operation at a time. -/
def operate (b : Broker) (now : Nat) : (o : Operation) → o.Answer × Broker
  | .declare d => ((), b.declare d)
  | .inject d m => ((), b.inject now d m)
  | .depth name => b.depth now name
  | .receive name => b.receive now name
  | .drain name => b.drain now name
  | .clear name => ((), b.clear name)
  | .requireCredentials c => ((), b.requireCredentials c)
  | .failNext point => ((), b.failNext point)
  | .call c => b.perform now c

/-- The broker after operations, each at its time. -/
def after (b : Broker) (run : List (Nat × Operation)) : Broker :=
  run.foldl (fun b step => (b.operate step.1 step.2).2) b

@[simp] theorem after_nil (b : Broker) : b.after [] = b := rfl

@[simp] theorem after_append (b : Broker) (first second : List (Nat × Operation)) :
    b.after (first ++ second) = (b.after first).after second :=
  List.foldl_append

@[simp] theorem after_cons (b : Broker) (step : Nat × Operation) (rest : List (Nat × Operation)) :
    b.after (step :: rest) = ((b.operate step.1 step.2).2).after rest := rfl

/-! ### Messages that wait -/

/-- The kind with which a name is known. -/
def kind? (b : Broker) (name : String) : Option DestinationKind :=
  (b.mailboxes.get? name).map Mailbox.kind

theorem kindOf_eq (b : Broker) (d : Destination) : b.kindOf d = (b.kind? d.name).getD d.kind := rfl

theorem waiting_deliver (b : Broker) (p : Parcel) (name : String) :
    (b.deliver p).waiting name =
      b.waiting name ++ [p].filter (fun p => p.destination = name) := by
  simp only [waiting, deliver, Keyed.get?_insert]
  by_cases heq : p.destination = name
  · subst heq
    cases b.mailboxes.get? p.destination <;> simp
  · simp [heq]

theorem kind?_deliver (b : Broker) (p : Parcel) (name : String) :
    (b.deliver p).kind? name =
      if p.destination = name then some ((b.kind? name).getD .queue) else b.kind? name := by
  simp only [kind?, deliver, Keyed.get?_insert]
  by_cases heq : p.destination = name
  · subst heq
    cases b.mailboxes.get? p.destination <;> simp
  · simp [heq]

/-- Delivery changes the mailboxes and nothing else. -/
theorem deliverAll_mailboxes (b : Broker) (parcels : List Parcel) :
    b.deliverAll parcels = { b with mailboxes := (b.deliverAll parcels).mailboxes } := by
  induction parcels generalizing b with
  | nil => rfl
  | cons p rest ih =>
      change (b.deliver p).deliverAll rest = _
      rw [ih (b.deliver p)]
      rfl

theorem waiting_deliverAll (b : Broker) (parcels : List Parcel) (name : String) :
    (b.deliverAll parcels).waiting name =
      b.waiting name ++ parcels.filter (fun p => p.destination = name) := by
  induction parcels generalizing b with
  | nil => simp [deliverAll]
  | cons p rest ih =>
      change ((b.deliver p).deliverAll rest).waiting name = _
      rw [ih, waiting_deliver, List.append_assoc, ← List.filter_append, List.singleton_append]

theorem kind?_deliverAll (b : Broker) (parcels : List Parcel) (name : String) :
    (b.deliverAll parcels).kind? name =
      if parcels.any (fun p => p.destination = name) then some ((b.kind? name).getD .queue)
      else b.kind? name := by
  induction parcels generalizing b with
  | nil => simp [deliverAll]
  | cons p rest ih =>
      change ((b.deliver p).deliverAll rest).kind? name = _
      rw [ih, kind?_deliver]
      by_cases heq : p.destination = name <;> simp [heq]

theorem waiting_purge (b : Broker) (now : Nat) (name other : String) :
    (b.purge now name).waiting other =
      if name = other then (b.waiting other).filter (fun p => !p.isExpired now)
      else b.waiting other := by
  simp only [waiting, purge, Keyed.get?_modify]
  by_cases heq : name = other
  · subst heq
    cases b.mailboxes.get? name <;> simp [Mailbox.purge]
  · simp [heq]

theorem waiting_replaceWaiting (b : Broker) (name other : String) {parcels : List Parcel}
    (h : parcels.Sublist (b.waiting name)) :
    (b.replaceWaiting name parcels).waiting other =
      if name = other then parcels else b.waiting other := by
  simp only [waiting, replaceWaiting, Keyed.get?_modify]
  split
  next heq =>
    subst heq
    cases hbox : b.mailboxes.get? name with
    | none =>
        -- a name that is not known stays without messages
        have hnone : parcels = [] := by simpa [waiting, hbox] using h
        simp [hnone]
    | some box => rfl
  next => rfl

theorem waiting_replaceWaiting_sublist (b : Broker) (name other : String) (parcels : List Parcel)
    (h : parcels.Sublist (b.waiting name)) :
    ((b.replaceWaiting name parcels).waiting other).Sublist (b.waiting other) := by
  rw [waiting_replaceWaiting b name other h]
  split
  next heq => exact heq ▸ h
  next => exact List.Sublist.refl _

@[simp] theorem kind?_purge (b : Broker) (now : Nat) (name other : String) :
    (b.purge now name).kind? other = b.kind? other := by
  simp only [kind?, purge, Keyed.get?_modify]
  by_cases heq : name = other
  · subst heq
    cases b.mailboxes.get? name <;> simp [Mailbox.purge]
  · simp [heq]

@[simp] theorem kind?_replaceWaiting (b : Broker) (name other : String) (parcels : List Parcel) :
    (b.replaceWaiting name parcels).kind? other = b.kind? other := by
  simp only [kind?, replaceWaiting, Keyed.get?_modify]
  by_cases heq : name = other
  · subst heq
    cases b.mailboxes.get? name <;> simp
  · simp [heq]

theorem kind?_declare (b : Broker) (d : Destination) (name : String) :
    (b.declare d).kind? name =
      if d.name = name then some ((b.kind? name).getD d.kind) else b.kind? name := by
  unfold declare kind? Keyed.contains
  by_cases heq : d.name = name
  · subst heq
    cases hbox : b.mailboxes.get? d.name <;> simp [hbox]
  · split <;> simp [heq]

theorem waiting_declare (b : Broker) (d : Destination) (name : String) :
    (b.declare d).waiting name = b.waiting name := by
  unfold declare waiting Keyed.contains
  by_cases heq : d.name = name
  · subst heq
    cases hbox : b.mailboxes.get? d.name <;> simp [hbox]
  · split <;> simp [heq]

theorem mailboxes_deliverAll_congr {b b' : Broker} (h : b.mailboxes = b'.mailboxes)
    (parcels : List Parcel) :
    (b.deliverAll parcels).mailboxes = (b'.deliverAll parcels).mailboxes := by
  induction parcels generalizing b b' with
  | nil => exact h
  | cons p rest ih =>
      apply ih
      simp only [deliver, h]

theorem waiting_congr {b b' : Broker} (h : b.mailboxes = b'.mailboxes) (name : String) :
    b.waiting name = b'.waiting name := by
  simp only [waiting, h]

theorem kind?_congr {b b' : Broker} (h : b.mailboxes = b'.mailboxes) (name : String) :
    b.kind? name = b'.kind? name := by
  simp only [kind?, h]

end Broker

/-! ### What calls come to -/

namespace Call

/-- The point at which a call can be made to fail. -/
def point : Call → Option FaultPoint
  | .createConnection _ => some .createConnection
  | .startConnection _ => some .startConnection
  | .stopConnection _ => some .stopConnection
  | .closeConnection _ => some .closeConnection
  | .createSession _ _ _ => some .createSession
  | .commit _ => some .commit
  | .rollback _ => none
  | .closeSession _ => some .closeSession
  | .createProducer _ _ => some .createProducer
  | .applySettings _ _ => some .applySettings
  | .send _ _ => some .send
  | .closeProducer _ => some .closeProducer
  | .createBrowser _ _ => some .browse
  | .browse _ => some .browse
  | .closeBrowser _ => none

/-- Whether a call closes a handle; that takes effect even when it is reported as failed. -/
def isClosing : Call → Bool
  | .closeConnection _ => true
  | .closeSession _ => true
  | .closeProducer _ => true
  | .closeBrowser _ => true
  | _ => false

end Call

namespace Broker

/-- The connection is not open any more. -/
def dropConnection (b : Broker) (c : Handle .connection) : Broker :=
  if b.connectionOpen c then
    countClosed { b with connections := b.connections.set c.index false } .connection
  else b

/-- The session is not open any more, and what it has put aside is gone. -/
def dropSession (b : Broker) (s : Handle .session) : Broker :=
  let b := b.modifySession s fun r => { r with pending := r.pending.map (fun _ => []) }
  if b.sessionOpen s then
    (b.modifySession s fun r => { r with isOpen := false }).countClosed .session
  else b

/-- The producer is not open any more. -/
def dropProducer (b : Broker) (p : Handle .producer) : Broker :=
  match b.openProducer? p with
  | none => b
  | some _ =>
      countClosed
        { b with producers := b.producers.modify p.index fun r => { r with isOpen := false } }
        .producer

/-- How a call is reported whose effect takes place in any case, and the broker that it meets. -/
inductive Reported (b : Broker) (point : FaultPoint) : Except BrokerError Unit → Broker → Prop
  | well (h : point ∉ b.armed) : Reported b point (.ok ()) b
  | ill (h : point ∈ b.armed) :
      Reported b point (.error (.transport (.injected point))) (b.disarm point)

/-- What a call can come to: it is refused or meets a fault and has no other effect, or it takes
effect. -/
inductive Effect (b : Broker) (now : Nat) : (c : Call) → c.Reply → Broker → Prop
  | refused {c : Call} (e : BrokerError) (he : ∀ fault, e ≠ .transport fault)
      (hc : c.isClosing = false) : Effect b now c (.error e) b
  | faulted {c : Call} {point : FaultPoint} (hpoint : c.point = some point)
      (harmed : point ∈ b.armed) (hc : c.isClosing = false) :
      Effect b now c (.error (.transport (.injected point))) (b.disarm point)
  | connected (credentials : Option Credentials) :
      Effect b now (.createConnection credentials) (.ok ⟨b.connections.length⟩)
        (countOpened { b with connections := b.connections ++ [true] } .connection)
  | started (c : Handle .connection) (hopen : b.connectionOpen c) :
      Effect b now (.startConnection c) (.ok ()) b
  | stopped (c : Handle .connection) (hopen : b.connectionOpen c) :
      Effect b now (.stopConnection c) (.ok ()) b
  | disconnected (c : Handle .connection) {reply : Except BrokerError Unit} {met : Broker}
      (h : Reported b .closeConnection reply met) :
      Effect b now (.closeConnection c) reply (met.dropConnection c)
  | sessionOpened (c : Handle .connection) (transacted : Bool) (mode : AcknowledgeMode)
      (hopen : b.connectionOpen c) :
      Effect b now (.createSession c transacted mode) (.ok ⟨b.sessions.length⟩)
        (countOpened
          { b with
            sessions := b.sessions ++ [{ pending := if transacted then some [] else none }] }
          .session)
  | committed (s : Handle .session) {parcels : List Parcel} (hopen : b.sessionOpen s)
      (hpending : b.pending s = some parcels) :
      Effect b now (.commit s) (.ok ()) ((b.setPending s []).deliverAll parcels)
  | rolledBack (s : Handle .session) {parcels : List Parcel} (hopen : b.sessionOpen s)
      (hpending : b.pending s = some parcels) :
      Effect b now (.rollback s) (.ok ()) (b.setPending s [])
  | sessionClosed (s : Handle .session) {reply : Except BrokerError Unit} {met : Broker}
      (h : Reported b .closeSession reply met) :
      Effect b now (.closeSession s) reply (met.dropSession s)
  | producerOpened (s : Handle .session) (d : Destination) (hopen : b.sessionOpen s) :
      Effect b now (.createProducer s d) (.ok ⟨b.producers.length⟩)
        (countOpened
          { b with producers := b.producers ++ [{ session := s, destination := d.name }] }
          .producer)
  | applied (p : Handle .producer) (settings : DeliverySettings) {r : ProducerRecord}
      (hopen : b.openProducer? p = some r) :
      Effect b now (.applySettings p settings) (.ok ())
        { b with producers := b.producers.modify p.index fun r => { r with settings } }
  | putAside (p : Handle .producer) (m : Message) {r : ProducerRecord} {parcels : List Parcel}
      (hopen : b.openProducer? p = some r) (hpending : b.pending r.session = some parcels) :
      Effect b now (.send p m) (.ok ())
        ({ b with nextSerial := b.nextSerial + 1 }.setPending r.session
          (parcels ++ [b.pack now r.destination (m.stamp r.settings)]))
  | sent (p : Handle .producer) (m : Message) {r : ProducerRecord}
      (hopen : b.openProducer? p = some r) (hpending : b.pending r.session = none) :
      Effect b now (.send p m) (.ok ())
        ({ b with nextSerial := b.nextSerial + 1 }.deliver
          (b.pack now r.destination (m.stamp r.settings)))
  | producerClosed (p : Handle .producer) {reply : Except BrokerError Unit} {met : Broker}
      (h : Reported b .closeProducer reply met) :
      Effect b now (.closeProducer p) reply (met.dropProducer p)
  | notInspectable (s : Handle .session) (d : Destination) (hopen : b.sessionOpen s)
      (hkind : b.kindOf d = .topic) :
      Effect b now (.createBrowser s d) (.ok none) b
  | browserOpened (s : Handle .session) (d : Destination) (hopen : b.sessionOpen s)
      (hkind : b.kindOf d = .queue) :
      Effect b now (.createBrowser s d) (.ok (some ⟨b.browsers.length⟩))
        (countOpened { b with browsers := b.browsers ++ [{ destination := d.name }] } .browser)
  | browsed (w : Handle .browser) {r : BrowserRecord} (hopen : b.openBrowser? w = some r) :
      Effect b now (.browse w) (.ok (b.depth now r.destination).1) (b.purge now r.destination)
  | browserGone (w : Handle .browser) (hgone : b.openBrowser? w = none) :
      Effect b now (.closeBrowser w) (.ok ()) b
  | browserClosed (w : Handle .browser) {r : BrowserRecord} (hopen : b.openBrowser? w = some r) :
      Effect b now (.closeBrowser w) (.ok ())
        (countClosed
          { b with browsers := b.browsers.modify w.index fun r => { r with isOpen := false } }
          .browser)

theorem closing_reported (b : Broker) (point : FaultPoint) (close : Broker → Broker) :
    ∃ met, b.Reported point (b.closing point close).1 met ∧
      (b.closing point close).2 = close met := by
  unfold closing
  split
  next h => exact ⟨_, .ill h, rfl⟩
  next h => exact ⟨_, .well h, rfl⟩

/-- A call with an effect where no fault is armed has an effect where one is. -/
theorem effect_attempt {b : Broker} {now : Nat} {c : Call} {point : FaultPoint}
    {act : Broker → c.Reply × Broker} (hpoint : c.point = some point) (hc : c.isClosing = false)
    (hact : b.Effect now c (act b).1 (act b).2) :
    b.Effect now c (b.attempt point act).1 (b.attempt point act).2 := by
  unfold attempt
  split
  next harmed => exact .faulted hpoint harmed hc
  next => exact hact

/-- A call with an effect on an open handle is refused on a closed one. -/
theorem effect_gate {b : Broker} {now : Nat} {c : Call} {kind : HandleKind} {isOpen : Bool}
    {outcome : c.Reply × Broker} (hc : c.isClosing = false)
    (hopen : isOpen = true → b.Effect now c outcome.1 outcome.2) :
    b.Effect now c (if isOpen then outcome else (.error (.closed kind), b)).1
      (if isOpen then outcome else (.error (.closed kind), b)).2 := by
  split
  next h => exact hopen h
  next => exact .refused _ (by simp) hc

theorem perform_effect (b : Broker) (now : Nat) (c : Call) :
    b.Effect now c (b.perform now c).1 (b.perform now c).2 := by
  cases c with
  | createConnection credentials =>
      apply effect_attempt rfl rfl
      unfold refusal
      split
      next e hrefused =>
        refine .refused e ?_ rfl
        grind
      next => exact .connected credentials
  | startConnection c =>
      apply effect_gate rfl
      intro hopen
      exact effect_attempt rfl rfl (.started c hopen)
  | stopConnection c =>
      apply effect_gate rfl
      intro hopen
      exact effect_attempt rfl rfl (.stopped c hopen)
  | closeConnection c =>
      obtain ⟨met, hmet, hafter⟩ :=
        b.closing_reported .closeConnection fun b => b.dropConnection c
      exact hafter ▸ .disconnected c hmet
  | createSession c transacted mode =>
      apply effect_gate rfl
      intro hopen
      exact effect_attempt rfl rfl (.sessionOpened c transacted mode hopen)
  | commit s =>
      apply effect_gate rfl
      intro hopen
      split
      next => exact .refused _ (by simp) rfl
      next parcels hpending => exact effect_attempt rfl rfl (.committed s hopen hpending)
  | rollback s =>
      apply effect_gate rfl
      intro hopen
      split
      next => exact .refused _ (by simp) rfl
      next parcels hpending => exact .rolledBack s hopen hpending
  | closeSession s =>
      obtain ⟨met, hmet, hafter⟩ := b.closing_reported .closeSession (fun b => b.dropSession s)
      exact hafter ▸ .sessionClosed s hmet
  | createProducer s d =>
      apply effect_gate rfl
      intro hopen
      exact effect_attempt rfl rfl (.producerOpened s d hopen)
  | applySettings p settings =>
      simp only [perform, applySettings]
      split
      next => exact .refused _ (by simp) rfl
      next r hopen => exact effect_attempt rfl rfl (.applied p settings hopen)
  | send p m =>
      simp only [perform, send]
      split
      next => exact .refused _ (by simp) rfl
      next r hopen =>
        apply effect_attempt rfl rfl
        split
        next parcels hpending => exact .putAside p m hopen hpending
        next hpending => exact .sent p m hopen hpending
  | closeProducer p =>
      obtain ⟨met, hmet, hafter⟩ := b.closing_reported .closeProducer (fun b => b.dropProducer p)
      exact hafter ▸ .producerClosed p hmet
  | createBrowser s d =>
      apply effect_gate rfl
      intro hopen
      apply effect_attempt rfl rfl
      split
      next hkind => exact .notInspectable s d hopen hkind
      next hkind => exact .browserOpened s d hopen hkind
  | browse w =>
      simp only [perform, browse]
      split
      next => exact .refused _ (by simp) rfl
      next r hopen => exact effect_attempt rfl rfl (.browsed w hopen)
  | closeBrowser w =>
      simp only [perform, closeBrowser]
      split
      next hgone => exact .browserGone w hgone
      next r hopen => exact .browserClosed w hopen

theorem effect_of_perform {b b' : Broker} {now : Nat} {c : Call} {reply : c.Reply}
    (h : b.perform now c = (reply, b')) : b.Effect now c reply b' := by
  have heffect := b.perform_effect now c
  rw [h] at heffect
  exact heffect

section Send

variable {b b' : Broker} {now : Nat} {p : Handle .producer} {m : Message} {r : ProducerRecord}

/-- A message handed over in a transaction is put aside behind the ones before it. -/
theorem aside_of_send {parcels : List Parcel} (h : b.perform now (.send p m) = (.ok (), b'))
    (hopen : b.openProducer? p = some r) (hpending : b.pending r.session = some parcels) :
    b' = { b with nextSerial := b.nextSerial + 1 }.setPending r.session
      (parcels ++ [b.pack now r.destination (m.stamp r.settings)]) := by
  cases effect_of_perform h with
  | putAside _ _ hopen' hpending' =>
      obtain rfl := Option.some.inj (hopen.symm.trans hopen')
      obtain rfl := Option.some.inj (hpending.symm.trans hpending')
      rfl
  | sent _ _ hopen' hpending' =>
      obtain rfl := Option.some.inj (hopen.symm.trans hopen')
      cases hpending.symm.trans hpending'

/-- Any other message is delivered at once. -/
theorem deliver_of_send (h : b.perform now (.send p m) = (.ok (), b'))
    (hopen : b.openProducer? p = some r) (hpending : b.pending r.session = none) :
    b' = { b with nextSerial := b.nextSerial + 1 }.deliver
      (b.pack now r.destination (m.stamp r.settings)) := by
  cases effect_of_perform h with
  | putAside _ _ hopen' hpending' =>
      obtain rfl := Option.some.inj (hopen.symm.trans hopen')
      cases hpending.symm.trans hpending'
  | sent _ _ hopen' _ =>
      obtain rfl := Option.some.inj (hopen.symm.trans hopen')
      rfl

end Send

/-! ### What operations deliver and what they take away -/

/-- The messages that an operation delivers, in order. -/
def delivered (b : Broker) (now : Nat) : Operation → List Parcel
  | .inject d m => [b.pack now d.name m]
  | .call (.send p m) =>
      match (b.send now p m).1, b.openProducer? p with
      | .ok _, some r =>
          if (b.pending r.session).isSome then []
          else [b.pack now r.destination (m.stamp r.settings)]
      | _, _ => []
  | .call (.commit s) =>
      match (b.commit s).1 with
      | .ok _ => (b.pending s).getD []
      | .error _ => []
  | _ => []

/-- A call that fails delivers nothing. -/
theorem delivered_of_error {b : Broker} {now : Nat} {c : Call} {e : BrokerError}
    (h : (b.perform now c).1 = .error e) : b.delivered now (.call c) = [] := by
  cases c with
  | send p m => simp only [delivered, show (b.send now p m).1 = .error e from h]
  | commit s => simp only [delivered, show (b.commit s).1 = .error e from h]
  | _ => rfl

theorem Reported.mailboxes {b met : Broker} {point : FaultPoint} {reply : Except BrokerError Unit}
    (h : b.Reported point reply met) : met.mailboxes = b.mailboxes := by
  cases h <;> rfl

theorem mailboxes_dropConnection (b : Broker) (c : Handle .connection) :
    (b.dropConnection c).mailboxes = b.mailboxes := by
  unfold dropConnection
  split <;> rfl

theorem mailboxes_dropSession (b : Broker) (s : Handle .session) :
    (b.dropSession s).mailboxes = b.mailboxes := by
  unfold dropSession
  dsimp only
  split <;> rfl

theorem mailboxes_dropProducer (b : Broker) (p : Handle .producer) :
    (b.dropProducer p).mailboxes = b.mailboxes := by
  unfold dropProducer
  split <;> rfl

/-- A call changes the mailboxes by its deliveries alone, unless it looks at a depth, which takes
away what is expired at one destination. -/
theorem mailboxes_perform (b : Broker) (now : Nat) (c : Call) :
    (b.perform now c).2.mailboxes = (b.deliverAll (b.delivered now (.call c))).mailboxes ∨
      ∃ w r, c = .browse w ∧ b.openBrowser? w = some r ∧
        (b.perform now c).2.mailboxes = (b.purge now r.destination).mailboxes := by
  have hquiet : ∀ b' : Broker, b'.mailboxes = b.mailboxes →
      b.delivered now (.call c) = [] →
      b'.mailboxes = (b.deliverAll (b.delivered now (.call c))).mailboxes := by
    intro b' hsame hnone
    rw [hnone]
    exact hsame
  have heffect := b.perform_effect now c
  -- what is delivered depends on the reply, so the reply stays known beside the effect
  generalize hreply : (b.perform now c).1 = reply at heffect
  generalize (b.perform now c).2 = b' at heffect ⊢
  cases heffect with
  | refused e he hc => exact Or.inl (hquiet _ rfl (delivered_of_error hreply))
  | faulted hpoint harmed hc => exact Or.inl (hquiet _ rfl (delivered_of_error hreply))
  | disconnected c h =>
      exact Or.inl (hquiet _ ((mailboxes_dropConnection _ c).trans h.mailboxes) rfl)
  | sessionClosed s h =>
      exact Or.inl (hquiet _ ((mailboxes_dropSession _ s).trans h.mailboxes) rfl)
  | producerClosed p h =>
      exact Or.inl (hquiet _ ((mailboxes_dropProducer _ p).trans h.mailboxes) rfl)
  | committed s hopen hpending =>
      left
      simp only [perform] at hreply
      simp only [delivered, hreply, hpending, Option.getD_some]
      have hsame : (b.setPending s []).mailboxes = b.mailboxes := rfl
      exact mailboxes_deliverAll_congr hsame _
  | putAside p m hopen hpending =>
      refine Or.inl (hquiet _ rfl ?_)
      simp only [perform] at hreply
      simp [delivered, hreply, hopen, hpending]
  | sent p m hopen hpending =>
      left
      simp only [perform] at hreply
      simp only [delivered, hreply, hopen, hpending, Option.isSome_none]
      rfl
  | browsed w hopen => exact Or.inr ⟨w, _, rfl, hopen, rfl⟩
  | _ => exact Or.inl (hquiet _ rfl rfl)

/-- What waits after an operation waited before, or is delivered by it and stands behind. -/
theorem waiting_operate (b : Broker) (now : Nat) (o : Operation) (name : String) :
    ((b.operate now o).2.waiting name).Sublist
      (b.waiting name ++ (b.delivered now o).filter (fun p => p.destination = name)) := by
  -- whoever looks at a destination first drops what is expired there
  have hpurge : ∀ other, ((b.purge now other).waiting name).Sublist (b.waiting name) := by
    intro other
    rw [waiting_purge]
    split
    · exact List.filter_sublist
    · exact List.Sublist.refl _
  cases o with
  | declare d => simp [operate, waiting_declare, delivered]
  | inject d m =>
      have hsame : (b.inject now d m).waiting name =
          (b.deliver (b.pack now d.name m)).waiting name := rfl
      simp only [operate, delivered, hsame, waiting_deliver]
      exact List.Sublist.refl _
  | depth other => simpa [operate, delivered, depth] using hpurge other
  | receive other =>
      simp only [operate, delivered, List.filter_nil, List.append_nil, receive]
      cases hwaiting : (b.purge now other).waiting other with
      | nil => exact hpurge other
      | cons p rest =>
          refine (waiting_replaceWaiting_sublist _ _ _ _ ?_).trans (hpurge other)
          rw [hwaiting]
          exact List.sublist_cons_self p rest
  | drain other =>
      simp only [operate, delivered, List.filter_nil, List.append_nil, drain]
      exact (waiting_replaceWaiting_sublist _ _ _ _ (List.nil_sublist _)).trans (hpurge other)
  | clear other =>
      simp only [operate, delivered, List.filter_nil, List.append_nil, clear]
      exact waiting_replaceWaiting_sublist _ _ _ _ (List.nil_sublist _)
  | requireCredentials c => exact List.sublist_append_left _ _
  | failNext point =>
      have hsame : (b.failNext point).mailboxes = b.mailboxes := by
        unfold failNext
        split <;> rfl
      simp only [operate, waiting_congr hsame]
      exact List.sublist_append_left _ _
  | call c =>
      rcases b.mailboxes_perform now c with h | ⟨w, r, rfl, _, h⟩
      · simp only [operate, waiting_congr h, waiting_deliverAll]
        exact List.Sublist.refl _
      · simp only [operate, waiting_congr h]
        exact (hpurge r.destination).trans (List.sublist_append_left _ _)

/-- A known name keeps its kind; an unknown one becomes known by its declaration, or else by the
first delivery, and then as a queue. -/
theorem kind?_operate (b : Broker) (now : Nat) (o : Operation) (name : String) :
    (b.operate now o).2.kind? name =
      (b.kind? name).or
        (match o with
        | .declare d => if d.name = name then some d.kind else none
        | o => if (b.delivered now o).any (fun p => p.destination = name) then some .queue
            else none) := by
  cases o with
  | declare d =>
      simp only [operate, kind?_declare]
      by_cases heq : d.name = name <;> cases b.kind? name <;> simp [heq]
  | inject d m =>
      have hsame : (b.inject now d m).kind? name =
          (b.deliver (b.pack now d.name m)).kind? name := rfl
      have hname : (b.pack now d.name m).destination = d.name := rfl
      simp only [operate, delivered, hsame, kind?_deliver, List.any_cons, List.any_nil, hname]
      by_cases heq : d.name = name <;> cases b.kind? name <;> simp [heq]
  | depth other => cases hkind : b.kind? name <;> simp [operate, depth, delivered, hkind]
  | receive other =>
      simp only [operate, receive]
      cases (b.purge now other).waiting other <;>
        cases hkind : b.kind? name <;> simp [delivered, hkind]
  | drain other => cases hkind : b.kind? name <;> simp [operate, drain, delivered, hkind]
  | clear other => cases hkind : b.kind? name <;> simp [operate, clear, delivered, hkind]
  | requireCredentials c =>
      have hsame : (b.requireCredentials c).kind? name = b.kind? name := rfl
      cases hkind : b.kind? name <;> simp [operate, delivered, hsame, hkind]
  | failNext point =>
      have hsame : (b.failNext point).mailboxes = b.mailboxes := by
        unfold failNext
        split <;> rfl
      cases hkind : b.kind? name <;> simp [operate, delivered, kind?_congr hsame, hkind]
  | call c =>
      rcases b.mailboxes_perform now c with h | ⟨w, r, rfl, _, h⟩
      · simp only [operate, kind?_congr h, kind?_deliverAll]
        cases b.kind? name <;> split <;> simp_all
      · cases hkind : b.kind? name <;> simp [operate, kind?_congr h, delivered, hkind]

theorem kind?_operate_of_known {b : Broker} {name : String} {kind : DestinationKind}
    (h : b.kind? name = some kind) (now : Nat) (o : Operation) :
    (b.operate now o).2.kind? name = some kind := by
  rw [kind?_operate, h, Option.some_or]

end Broker

end Sluice
