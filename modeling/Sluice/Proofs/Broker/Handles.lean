import Sluice.Proofs.Broker.Operation

/-! # Handles in foreign hands

A broker keeps a record of every handle that it gave out. A call changes at most one record that
was there, that of a handle which it uses or, when a producer puts a message aside, that of the
session of the producer; or it adds one record. So whoever holds some handles finds their records
unchanged whatever others do with theirs.
-/

namespace Sluice

/-- A handle of any kind. -/
@[ext]
structure AnyHandle where
  kind : HandleKind
  index : Nat
deriving DecidableEq, Repr

/-- A handle whose kind is not looked at. -/
def Handle.any {kind : HandleKind} (h : Handle kind) : AnyHandle := ⟨kind, h.index⟩

/-- What a broker records of a handle. -/
inductive Record where
  | connection (isOpen : Bool)
  | session (r : SessionRecord)
  | producer (r : ProducerRecord)
  | browser (r : BrowserRecord)
deriving DecidableEq

namespace Record

/-- Whether the handle is open. -/
def isOpen : Record → Bool
  | .connection isOpen => isOpen
  | .session r => r.isOpen
  | .producer r => r.isOpen
  | .browser r => r.isOpen

/-- The session to which a producer belongs. -/
def session? : Record → Option (Handle .session)
  | .producer r => some r.session
  | _ => none

end Record

namespace Call

/-- The handles with which a call is made. -/
def uses : Call → List AnyHandle
  | .createConnection _ => []
  | .startConnection c => [c.any]
  | .stopConnection c => [c.any]
  | .closeConnection c => [c.any]
  | .createSession c _ _ => [c.any]
  | .commit s => [s.any]
  | .rollback s => [s.any]
  | .closeSession s => [s.any]
  | .createProducer s _ => [s.any]
  | .applySettings p _ => [p.any]
  | .send p _ => [p.any]
  | .closeProducer p => [p.any]
  | .createBrowser s _ => [s.any]
  | .browse w => [w.any]
  | .closeBrowser w => [w.any]

/-- The handles that a call gives out. -/
def opened : (c : Call) → c.Reply → List AnyHandle
  | .createConnection _, .ok h => [@Handle.any .connection h]
  | .createSession _ _ _, .ok h => [@Handle.any .session h]
  | .createProducer _ _, .ok h => [@Handle.any .producer h]
  | .createBrowser _ _, .ok (some h) => [@Handle.any .browser h]
  | _, _ => []

end Call

/-- The handles with which an operation is done. -/
def Operation.uses : Operation → List AnyHandle
  | .call c => c.uses
  | _ => []

namespace Broker

/-- The records of a kind. -/
def records (b : Broker) : HandleKind → List Record
  | .connection => b.connections.map .connection
  | .session => b.sessions.map .session
  | .producer => b.producers.map .producer
  | .browser => b.browsers.map .browser

/-- The record of a handle. -/
def record? (b : Broker) (h : AnyHandle) : Option Record := (b.records h.kind)[h.index]?

/-- Whether a handle is open. -/
def isOpen (b : Broker) (h : AnyHandle) : Bool := (b.record? h).any Record.isOpen

/-- The handles whose records a call can change. -/
def touched (b : Broker) : Call → List AnyHandle
  | .send p _ => p.any :: ((b.openProducer? p).map fun r => r.session.any).toList
  | c => c.uses

/-- What becomes of the records and of the count of open handles when a call is answered. -/
inductive Booked (b : Broker) (c : Call) (reply : c.Reply) (b' : Broker) : Prop
  /-- Nothing. -/
  | same (hopened : c.opened reply = []) (hrecords : b'.records = b.records)
      (hcount : b'.openHandles = b.openHandles)
  /-- A record is added, of a handle that is open. -/
  | added (kind : HandleKind) (r : Record)
      (hopened : c.opened reply = [⟨kind, (b.records kind).length⟩]) (hopen : r.isOpen)
      (hsession : ∀ s, r.session? = some s → s.any ∈ c.uses ∧ b.sessionOpen s)
      (hrecords : ∀ k, b'.records k = if k = kind then b.records k ++ [r] else b.records k)
      (hcount : b'.openHandles = b.openHandles.update (· + 1) kind)
  /-- A record is changed, and the handle is as open as before. -/
  | changed (h : AnyHandle) (r r' : Record) (hopened : c.opened reply = [])
      (htouched : h ∈ b.touched c) (hr : b.record? h = some r)
      (hopen : r'.isOpen = r.isOpen) (hsession : r'.session? = r.session?)
      (hrecords : ∀ k, b'.records k =
        if k = h.kind then (b.records k).set h.index r' else b.records k)
      (hcount : b'.openHandles = b.openHandles)
  /-- A record is closed. -/
  | closed (h : AnyHandle) (r r' : Record) (hopened : c.opened reply = [])
      (htouched : h ∈ b.touched c) (hr : b.record? h = some r) (hopen : r.isOpen)
      (hclosed : r'.isOpen = false) (hsession : r'.session? = r.session?)
      (hrecords : ∀ k, b'.records k =
        if k = h.kind then (b.records k).set h.index r' else b.records k)
      (hcount : b'.openHandles = b.openHandles.update (· - 1) h.kind)

theorem modify_map {α β : Type} (l : List α) (i : Nat) (f : α → α) (g : α → β) {x : α}
    (h : l[i]? = some x) : (l.modify i f).map g = (l.map g).set i (g (f x)) := by
  obtain ⟨hlt, rfl⟩ := List.getElem?_eq_some_iff.mp h
  apply List.ext_getElem?
  intro j
  by_cases hij : i = j
  · subst hij
    simp [hlt]
  · simp [hij]

theorem opened_error (c : Call) (e : BrokerError) : c.opened (.error e) = [] := by
  cases c <;> rfl

theorem getElem?_of_connectionOpen {b : Broker} {c : Handle .connection} (h : b.connectionOpen c) :
    b.connections[c.index]? = some true := by
  unfold connectionOpen at h
  cases hc : b.connections[c.index]? with
  | none => simp [hc] at h
  | some isOpen => simpa [hc] using h

theorem getElem?_of_sessionOpen {b : Broker} {s : Handle .session} (h : b.sessionOpen s) :
    ∃ r, b.sessions[s.index]? = some r ∧ r.isOpen := by
  unfold sessionOpen at h
  cases hs : b.sessions[s.index]? with
  | none => simp [hs] at h
  | some r => exact ⟨r, rfl, by simpa [hs] using h⟩

theorem getElem?_of_pending {b : Broker} {s : Handle .session} {parcels : List Parcel}
    (h : b.pending s = some parcels) :
    ∃ r, b.sessions[s.index]? = some r ∧ r.pending = some parcels :=
  Option.bind_eq_some_iff.mp h

theorem openProducer?_eq_some {b : Broker} {p : Handle .producer} {r : ProducerRecord} :
    b.openProducer? p = some r ↔ b.producers[p.index]? = some r ∧ r.isOpen :=
  Option.filter_eq_some_iff

theorem openBrowser?_eq_some {b : Broker} {w : Handle .browser} {r : BrowserRecord} :
    b.openBrowser? w = some r ↔ b.browsers[w.index]? = some r ∧ r.isOpen :=
  Option.filter_eq_some_iff

/-- The parts of a broker that handles are about are the same. -/
structure SameHandles (b b' : Broker) : Prop where
  connections : b'.connections = b.connections
  sessions : b'.sessions = b.sessions
  producers : b'.producers = b.producers
  browsers : b'.browsers = b.browsers
  openHandles : b'.openHandles = b.openHandles

theorem SameHandles.records {b b' : Broker} (h : b.SameHandles b') : b'.records = b.records := by
  funext kind
  cases kind
  · exact congrArg _ h.connections
  · exact congrArg _ h.sessions
  · exact congrArg _ h.producers
  · exact congrArg _ h.browsers

theorem Reported.sameHandles {b met : Broker} {point : FaultPoint}
    {reply : Except BrokerError Unit} (h : b.Reported point reply met) : b.SameHandles met := by
  cases h <;> exact ⟨rfl, rfl, rfl, rfl, rfl⟩

theorem sameHandles_deliverAll (b : Broker) (parcels : List Parcel) :
    b.SameHandles (b.deliverAll parcels) := by
  rw [deliverAll_mailboxes]
  exact ⟨rfl, rfl, rfl, rfl, rfl⟩

theorem booked_dropConnection {b met : Broker} (h : b.SameHandles met) (c : Handle .connection)
    (reply : Except BrokerError Unit) :
    b.Booked (.closeConnection c) reply (met.dropConnection c) := by
  unfold dropConnection
  split
  next hopen =>
    have hc := getElem?_of_connectionOpen hopen
    rw [h.connections] at hc
    refine .closed c.any (.connection true) (.connection false) rfl
      (by simp [touched, Call.uses]) ?_ rfl rfl rfl ?_ ?_
    · simp [record?, records, Handle.any, hc]
    · intro kind
      cases kind <;>
        simp [records, countClosed, Handle.any, List.map_set, h.connections, h.sessions,
          h.producers, h.browsers]
    · simp [countClosed, Handle.any, h.openHandles]
  next => exact .same rfl h.records h.openHandles

theorem sessionOpen_modifySession (b : Broker) (s : Handle .session)
    (f : SessionRecord → SessionRecord) (h : ∀ r, (f r).isOpen = r.isOpen) :
    (b.modifySession s f).sessionOpen s = b.sessionOpen s := by
  cases hs : b.sessions[s.index]? <;> simp [sessionOpen, modifySession, hs, h]

theorem booked_dropSession {b met : Broker} (h : b.SameHandles met) (s : Handle .session)
    (reply : Except BrokerError Unit) :
    b.Booked (.closeSession s) reply (met.dropSession s) := by
  have hopened : met.sessionOpen s = b.sessionOpen s := by
    simp only [sessionOpen, h.sessions]
  unfold dropSession
  dsimp only
  rw [sessionOpen_modifySession _ _ _ (by intro r; rfl), hopened]
  cases hs : b.sessions[s.index]? with
  | none =>
      have hclosed : b.sessionOpen s = false := by simp [sessionOpen, hs]
      have hnone : ∀ f, met.modifySession s f = met := by
        intro f
        have hlength := List.getElem?_eq_none_iff.mp hs
        rw [← h.sessions] at hlength
        simp only [modifySession, List.modify_eq_self hlength]
      rw [hclosed, hnone]
      exact .same rfl h.records h.openHandles
  | some r =>
      have hmodify : ∀ f, (met.sessions.modify s.index f).map Record.session =
          (b.sessions.map .session).set s.index (.session (f r)) := by
        intro f
        rw [modify_map _ _ _ _ (h.sessions ▸ hs), h.sessions]
      split
      next hopen =>
        refine .closed s.any (.session r)
          (.session { isOpen := false, pending := r.pending.map fun _ => [] })
          rfl (by simp [touched, Call.uses]) ?_ ?_ rfl rfl ?_ ?_
        · simp [record?, records, Handle.any, hs]
        · simpa [sessionOpen, hs, Record.isOpen] using hopen
        · intro kind
          cases kind <;>
            simp [records, countClosed, modifySession, Handle.any, h.connections,
              h.producers, h.browsers, List.modify_modify_eq, hmodify]
        · simp [countClosed, modifySession, Handle.any, h.openHandles]
      next =>
        refine .changed s.any (.session r)
          (.session { r with pending := r.pending.map fun _ => [] })
          rfl (by simp [touched, Call.uses]) ?_ rfl rfl ?_ h.openHandles
        · simp [record?, records, Handle.any, hs]
        · intro kind
          cases kind <;>
            simp [records, modifySession, Handle.any, h.connections, h.producers, h.browsers,
              hmodify]

theorem booked_dropProducer {b met : Broker} (h : b.SameHandles met) (p : Handle .producer)
    (reply : Except BrokerError Unit) :
    b.Booked (.closeProducer p) reply (met.dropProducer p) := by
  unfold dropProducer
  split
  next => exact .same rfl h.records h.openHandles
  next r hopen =>
    obtain ⟨hp, hr⟩ := openProducer?_eq_some.mp hopen
    refine .closed p.any (.producer r) (.producer { r with isOpen := false }) rfl
      (by simp [touched, Call.uses]) ?_ hr rfl rfl ?_ ?_
    · simp [record?, records, Handle.any, ← h.producers, hp]
    · intro kind
      cases kind <;>
        simp [records, countClosed, Handle.any, h.connections, h.sessions, h.browsers,
          modify_map _ _ _ _ hp, ← h.producers]
    · simp [countClosed, Handle.any, h.openHandles]

/-- A call that changes what a session has put aside, and no other record. -/
theorem booked_setPending {b b' : Broker} {c : Call} {reply : c.Reply} {s : Handle .session}
    {parcels parcels' : List Parcel} (hopened : c.opened reply = [])
    (htouched : s.any ∈ b.touched c) (hpending : b.pending s = some parcels)
    (h : (b.setPending s parcels').SameHandles b') : b.Booked c reply b' := by
  obtain ⟨r, hs, hr⟩ := getElem?_of_pending hpending
  refine .changed s.any (.session r) (.session { r with pending := some parcels' })
    hopened htouched ?_ rfl rfl ?_ h.openHandles
  · simp [record?, records, Handle.any, hs]
  · intro kind
    rw [h.records]
    cases kind <;> simp [records, setPending, modifySession, Handle.any, modify_map _ _ _ _ hs]

theorem Effect.booked {b b' : Broker} {now : Nat} {c : Call} {reply : c.Reply}
    (h : b.Effect now c reply b') : b.Booked c reply b' := by
  cases h with
  | refused e he hc => exact .same (opened_error c e) rfl rfl
  | faulted hpoint harmed hc => exact .same (opened_error c _) rfl rfl
  | connected credentials =>
      refine .added .connection (.connection true) ?_ rfl ?_ ?_ rfl
      · simp [Call.opened, Handle.any, records]
      · simp [Record.session?]
      · intro kind
        cases kind <;> simp [records, countOpened]
  | started c hopen => exact .same rfl rfl rfl
  | stopped c hopen => exact .same rfl rfl rfl
  | disconnected c h => exact booked_dropConnection h.sameHandles c _
  | sessionOpened c transacted mode hopen =>
      refine .added .session (.session { pending := if transacted then some [] else none })
        ?_ rfl ?_ ?_ rfl
      · simp [Call.opened, Handle.any, records]
      · simp [Record.session?]
      · intro kind
        cases kind <;> simp [records, countOpened]
  | committed s hopen hpending =>
      exact booked_setPending rfl (by simp [touched, Call.uses]) hpending
        (sameHandles_deliverAll _ _)
  | rolledBack s hopen hpending =>
      exact booked_setPending rfl (by simp [touched, Call.uses]) hpending
        ⟨rfl, rfl, rfl, rfl, rfl⟩
  | sessionClosed s h => exact booked_dropSession h.sameHandles s _
  | producerOpened s d hopen =>
      refine .added .producer (.producer { session := s, destination := d.name }) ?_ rfl ?_ ?_ rfl
      · simp [Call.opened, Handle.any, records]
      · simp [Record.session?, Call.uses, hopen]
      · intro kind
        cases kind <;> simp [records, countOpened]
  | @applied p settings r hopen =>
      obtain ⟨hp, hr⟩ := openProducer?_eq_some.mp hopen
      refine .changed p.any (.producer r) (.producer { r with settings }) rfl
        (by simp [touched, Call.uses]) ?_ rfl rfl ?_ rfl
      · simp [record?, records, Handle.any, hp]
      · intro kind
        cases kind <;> simp [records, Handle.any, modify_map _ _ _ _ hp]
  -- the one call that changes a record of another handle than those it is made with
  | putAside p m hopen hpending =>
      exact booked_setPending rfl (by simp [touched, hopen]) hpending ⟨rfl, rfl, rfl, rfl, rfl⟩
  | sent p m hopen hpending => exact .same rfl rfl rfl
  | producerClosed p h => exact booked_dropProducer h.sameHandles p _
  | notInspectable s d hopen hkind => exact .same rfl rfl rfl
  | browserOpened s d hopen hkind =>
      refine .added .browser (.browser { destination := d.name }) ?_ rfl ?_ ?_ rfl
      · simp [Call.opened, Handle.any, records]
      · simp [Record.session?]
      · intro kind
        cases kind <;> simp [records, countOpened]
  | browsed w hopen => exact .same rfl rfl rfl
  | browserGone w hgone => exact .same rfl rfl rfl
  | @browserClosed w r hopen =>
      obtain ⟨hw, hr⟩ := openBrowser?_eq_some.mp hopen
      refine .closed w.any (.browser r) (.browser { r with isOpen := false }) rfl
        (by simp [touched, Call.uses]) ?_ hr rfl rfl ?_ rfl
      · simp [record?, records, Handle.any, hw]
      · intro kind
        cases kind <;> simp [records, countClosed, Handle.any, modify_map _ _ _ _ hw]

theorem booked_perform (b : Broker) (now : Nat) (c : Call) :
    b.Booked c (b.perform now c).1 (b.perform now c).2 :=
  (b.perform_effect now c).booked

/-! ### Keeping handles apart -/

theorem record?_set {b b' : Broker} {other : AnyHandle} {r : Record}
    (hrecords : ∀ k, b'.records k =
      if k = other.kind then (b.records k).set other.index r else b.records k) (h : AnyHandle) :
    b'.record? h = if h = other then (b.record? h).map (fun _ => r) else b.record? h := by
  rw [record?, hrecords]
  by_cases heq : h = other
  · subst heq
    rw [if_pos rfl, if_pos rfl, List.getElem?_set_self']
    rfl
  · rw [if_neg heq]
    split
    next hkind =>
      have hindex : other.index ≠ h.index := fun hindex => heq (AnyHandle.ext hkind hindex.symm)
      rw [List.getElem?_set_ne hindex]
      rfl
    next => rfl

theorem record?_append {b b' : Broker} {kind : HandleKind} {r : Record}
    (hrecords : ∀ k, b'.records k = if k = kind then b.records k ++ [r] else b.records k)
    (h : AnyHandle) :
    b'.record? h = if h = ⟨kind, (b.records kind).length⟩ then some r else b.record? h := by
  rw [record?, hrecords]
  by_cases heq : h = ⟨kind, (b.records kind).length⟩
  · subst heq
    simp
  · rw [if_neg heq]
    split
    next hkind =>
      subst hkind
      have hindex : h.index ≠ (b.records h.kind).length :=
        fun hindex => heq (AnyHandle.ext rfl hindex)
      rw [List.getElem?_append]
      split
      next => rfl
      next hge =>
        have hnone : b.record? h = none := List.getElem?_eq_none_iff.mpr (by omega)
        rw [hnone, List.getElem?_eq_none_iff, List.length_singleton]
        omega
    next => rfl

/-- A handle that was given out and that a call does not touch keeps its record. -/
theorem Booked.record? {b b' : Broker} {c : Call} {reply : c.Reply} (hbooked : b.Booked c reply b')
    {h : AnyHandle} (hissued : h.index < (b.records h.kind).length) (htouched : h ∉ b.touched c) :
    b'.record? h = b.record? h := by
  cases hbooked with
  | same hopened hrecords hcount => rw [Broker.record?, hrecords, Broker.record?]
  | added kind r hopened hopen hsession hrecords hcount =>
      rw [record?_append hrecords, if_neg]
      rintro rfl
      exact absurd rfl (Nat.ne_of_lt hissued)
  | changed other r r' hopened hother hr hopen hsession hrecords hcount =>
      rw [record?_set hrecords, if_neg]
      rintro rfl
      exact htouched hother
  | closed other r r' hopened hother hr hopen hclosed hsession hrecords hcount =>
      rw [record?_set hrecords, if_neg]
      rintro rfl
      exact htouched hother

/-- A handle that was given out stays known, and is not opened again. -/
theorem Booked.record?_of_known {b b' : Broker} {c : Call} {reply : c.Reply}
    (hbooked : b.Booked c reply b') {h : AnyHandle} {r : Record} (hr : b.record? h = some r) :
    ∃ r', b'.record? h = some r' ∧ (r'.isOpen = true → r.isOpen = true) := by
  have hset : ∀ (other : AnyHandle) (old r' : Record), b.record? other = some old →
      (r'.isOpen = true → old.isOpen = true) →
      (∀ k, b'.records k =
        if k = other.kind then (b.records k).set other.index r' else b.records k) →
      ∃ r', b'.record? h = some r' ∧ (r'.isOpen = true → r.isOpen = true) := by
    intro other old r' hold hopen hrecords
    rw [record?_set hrecords]
    split
    next heq =>
      subst heq
      obtain rfl := Option.some.inj (hold.symm.trans hr)
      exact ⟨r', by rw [hr, Option.map_some], hopen⟩
    next => exact ⟨r, hr, id⟩
  cases hbooked with
  | same hopened hrecords hcount =>
      exact ⟨r, by rw [Broker.record?, hrecords, ← Broker.record?, hr], id⟩
  | added kind new hopened hopen hsession hrecords hcount =>
      refine ⟨r, ?_, id⟩
      rw [record?_append hrecords, if_neg, hr]
      rintro rfl
      simp [Broker.record?] at hr
  | changed other old r' hopened hother hold hopen hsession hrecords hcount =>
      exact hset other old r' hold (fun h => hopen.symm.trans h) hrecords
  | closed other old r' hopened hother hold hopen hclosed hsession hrecords hcount =>
      exact hset other old r' hold (fun h => by simp [hclosed] at h) hrecords

/-- How many handles of each kind were given out. -/
theorem Booked.length_records {b b' : Broker} {c : Call} {reply : c.Reply}
    (hbooked : b.Booked c reply b') (kind : HandleKind) :
    (b'.records kind).length =
      (b.records kind).length + ((c.opened reply).filter fun h => h.kind = kind).length := by
  cases hbooked with
  | same hopened hrecords hcount => simp [hopened, hrecords]
  | added other r hopened hopen hsession hrecords hcount =>
      rw [hopened, hrecords]
      by_cases hkind : kind = other
      · simp [hkind]
      · simp [hkind, show ¬ other = kind from fun h => hkind h.symm]
  | changed other r r' hopened hother hr hopen hsession hrecords hcount =>
      rw [hopened, hrecords]
      split <;> simp
  | closed other r r' hopened hother hr hopen hclosed hsession hrecords hcount =>
      rw [hopened, hrecords]
      split <;> simp

/-- The count of open handles is right. -/
def Counted (b : Broker) : Prop :=
  ∀ kind, b.openHandles.count kind = (b.records kind).countP Record.isOpen

theorem count_update (h : OpenHandles) (f : Nat → Nat) (kind other : HandleKind) :
    (h.update f kind).count other = if other = kind then f (h.count other) else h.count other := by
  cases kind <;> cases other <;> rfl

theorem countP_set {l : List Record} {i : Nat} {r : Record} (h : l[i]? = some r) (r' : Record) :
    (l.set i r').countP Record.isOpen + r.isOpen.toNat =
      l.countP Record.isOpen + r'.isOpen.toNat := by
  obtain ⟨hlt, rfl⟩ := List.getElem?_eq_some_iff.mp h
  rw [List.countP_set hlt]
  cases hopen : l[i].isOpen with
  | false => cases r'.isOpen <;> simp
  | true =>
      have hpos : 0 < l.countP Record.isOpen :=
        List.countP_pos_iff.mpr ⟨l[i], List.getElem_mem hlt, hopen⟩
      cases r'.isOpen
      · simp only [if_true, Bool.toNat_true, Bool.toNat_false, Bool.false_eq_true, if_false]
        omega
      · simp only [if_true, Bool.toNat_true]
        omega

theorem Booked.counted {b b' : Broker} {c : Call} {reply : c.Reply}
    (hbooked : b.Booked c reply b') (hcounted : b.Counted) : b'.Counted := by
  intro kind
  have hkind := hcounted kind
  cases hbooked with
  | same hopened hrecords hcount => rw [hrecords, hcount, hkind]
  | added other r hopened hopen hsession hrecords hcount =>
      rw [hrecords, hcount, count_update]
      split
      · simp [hkind, hopen]
      · exact hkind
  | changed other r r' hopened hother hr hopen hsession hrecords hcount =>
      rw [hrecords, hcount, hkind]
      split
      next heq =>
        subst heq
        have hset := countP_set hr r'
        rw [hopen] at hset
        omega
      next => rfl
  | closed other r r' hopened hother hr hopen hclosed hsession hrecords hcount =>
      rw [hrecords, hcount, count_update]
      split
      next heq =>
        subst heq
        have hset := countP_set hr r'
        rw [hopen, hclosed] at hset
        simp at hset
        omega
      next => exact hkind

/-- A handle that is given out is the next one of its kind. -/
theorem Booked.index_opened {b b' : Broker} {c : Call} {reply : c.Reply}
    (hbooked : b.Booked c reply b') {h : AnyHandle} (hmem : h ∈ c.opened reply) :
    h.index = (b.records h.kind).length := by
  cases hbooked with
  | same hopened hrecords hcount => simp [hopened] at hmem
  | added other r hopened hopen hsession hrecords hcount =>
      rw [hopened, List.mem_singleton] at hmem
      rw [hmem]
  | changed other r r' hopened hother hr hopen hsession hrecords hcount => simp [hopened] at hmem
  | closed other r r' hopened hother hr hopen hclosed hsession hrecords hcount =>
      simp [hopened] at hmem

theorem Booked.isSome_of_opened {b b' : Broker} {c : Call} {reply : c.Reply}
    (hbooked : b.Booked c reply b') {h : AnyHandle} (hmem : h ∈ c.opened reply) :
    (b'.record? h).isSome := by
  cases hbooked with
  | added kind r hopened hopen hsession hrecords hcount =>
      rw [hopened, List.mem_singleton] at hmem
      rw [record?_append hrecords, if_pos hmem]
      rfl
  | same hopened => simp [hopened] at hmem
  | changed other r r' hopened => simp [hopened] at hmem
  | closed other r r' hopened => simp [hopened] at hmem

/-- A record belongs to the session to which it belonged before, or it is new and belongs to the
open session with which it was made. -/
theorem Booked.session_cases {b b' : Broker} {c : Call} {reply : c.Reply}
    (hbooked : b.Booked c reply b') {h : AnyHandle} {r' : Record} {s : Handle .session}
    (hr' : b'.record? h = some r') (hs : r'.session? = some s) :
    (∃ r, b.record? h = some r ∧ r.session? = some s) ∨
      (h ∈ c.opened reply ∧ s.any ∈ c.uses ∧ b.sessionOpen s) := by
  have hset : ∀ (other : AnyHandle) (r r'' : Record), b.record? other = some r →
      r''.session? = r.session? →
      (∀ k, b'.records k =
        if k = other.kind then (b.records k).set other.index r'' else b.records k) →
      ∃ r, b.record? h = some r ∧ r.session? = some s := by
    intro other r r'' hr hsession hrecords
    rw [record?_set hrecords] at hr'
    split at hr'
    next heq =>
      subst heq
      rw [hr, Option.map_some] at hr'
      obtain rfl := Option.some.inj hr'
      exact ⟨r, hr, hsession.symm.trans hs⟩
    next => exact ⟨r', hr', hs⟩
  cases hbooked with
  | same hopened hrecords hcount =>
      rw [Broker.record?, hrecords] at hr'
      exact .inl ⟨r', hr', hs⟩
  | added kind r hopened hopen hsession hrecords hcount =>
      rw [record?_append hrecords] at hr'
      split at hr'
      next heq =>
        obtain rfl := Option.some.inj hr'
        refine .inr ⟨?_, hsession s hs⟩
        rw [hopened, heq]
        exact List.mem_singleton_self _
      next => exact .inl ⟨r', hr', hs⟩
  | changed other r r'' hopened hother hr hopen hsession hrecords hcount =>
      exact .inl (hset other r r'' hr hsession hrecords)
  | closed other r r'' hopened hother hr hopen hclosed hsession hrecords hcount =>
      exact .inl (hset other r r'' hr hsession hrecords)

/-- Some of the handles that a broker gave out are kept by one party: what others hold has nothing
to do with their sessions. -/
structure Keeps (b : Broker) (ours : List AnyHandle) : Prop where
  counted : b.Counted
  issued : ∀ h ∈ ours, h.index < (b.records h.kind).length
  existing : ∀ h r s, b.record? h = some r → r.session? = some s →
    s.index < (b.records .session).length
  apart : ∀ h r s, b.record? h = some r → r.session? = some s → h ∉ ours → s.any ∉ ours

theorem keeps_new : ({} : Broker).Keeps [] where
  counted kind := by cases kind <;> rfl
  issued := by simp
  existing h r s hr := by
    cases h with
    | mk kind index => cases kind <;> simp [record?, records] at hr
  apart := by simp

theorem length_sessions_of_open {b : Broker} {s : Handle .session} (h : b.sessionOpen s) :
    s.index < (b.records .session).length := by
  obtain ⟨r, hs, -⟩ := getElem?_of_sessionOpen h
  have := (List.getElem?_eq_some_iff.mp hs).1
  simpa [records] using this

theorem Keeps.existing_booked {b b' : Broker} {c : Call} {reply : c.Reply}
    {ours : List AnyHandle} (hkeeps : b.Keeps ours) (hbooked : b.Booked c reply b')
    {h : AnyHandle} {r : Record} {s : Handle .session} (hr : b'.record? h = some r)
    (hs : r.session? = some s) : s.index < (b'.records .session).length := by
  have hlength := hbooked.length_records .session
  rcases hbooked.session_cases hr hs with ⟨r, hr, hs⟩ | ⟨-, -, hopen⟩
  · have := hkeeps.existing h r s hr hs
    omega
  · have := length_sessions_of_open hopen
    omega

/-- A party that makes a call keeps what the call opens for it. -/
theorem Keeps.ours {b b' : Broker} {c : Call} {reply : c.Reply} {ours : List AnyHandle}
    (hkeeps : b.Keeps ours) (hbooked : b.Booked c reply b') :
    b'.Keeps (ours ++ c.opened reply) where
  counted := hbooked.counted hkeeps.counted
  issued h hmem := by
    rcases List.mem_append.mp hmem with hmem | hmem
    · have := hkeeps.issued h hmem
      have := hbooked.length_records h.kind
      omega
    · have hindex := hbooked.index_opened hmem
      have hpos : 0 < ((c.opened reply).filter fun k => k.kind = h.kind).length :=
        List.length_pos_of_mem (List.mem_filter.mpr ⟨hmem, by simp⟩)
      have := hbooked.length_records h.kind
      omega
  existing h r s hr hs := hkeeps.existing_booked hbooked hr hs
  apart h r s hr hs hours := by
    rw [List.mem_append, not_or] at hours
    rcases hbooked.session_cases hr hs with ⟨r, hr, hs⟩ | ⟨hopened, -, -⟩
    · rw [List.mem_append, not_or]
      refine ⟨hkeeps.apart h r s hr hs hours.1, ?_⟩
      intro hmem
      -- a session that is opened now belongs to no producer yet
      have hindex := hbooked.index_opened hmem
      have hexisting := hkeeps.existing h r s hr hs
      exact absurd hindex (Nat.ne_of_lt hexisting)
    · exact absurd hopened hours.2

/-- What a call touches belongs to others when it is made with handles of others. -/
theorem Keeps.touched_theirs {b : Broker} {c : Call} {ours : List AnyHandle}
    (hkeeps : b.Keeps ours) (huses : ∀ h ∈ c.uses, h ∉ ours) : ∀ h ∈ b.touched c, h ∉ ours := by
  intro h hmem
  cases c with
  | send p m =>
      have hp : p.any ∉ ours := huses p.any (by simp [Call.uses])
      simp only [touched, List.mem_cons, Option.mem_toList, Option.map_eq_some_iff] at hmem
      rcases hmem with rfl | ⟨r, hopen, rfl⟩
      · exact hp
      · obtain ⟨hr, -⟩ := openProducer?_eq_some.mp hopen
        refine hkeeps.apart p.any (.producer r) r.session ?_ rfl hp
        simp [record?, records, Handle.any, hr]
  | _ => exact huses h hmem

/-- What is kept stays as it is when others make a call. -/
theorem Keeps.theirs {b b' : Broker} {c : Call} {reply : c.Reply} {ours : List AnyHandle}
    (hkeeps : b.Keeps ours) (hbooked : b.Booked c reply b') (huses : ∀ h ∈ c.uses, h ∉ ours) :
    b'.Keeps ours where
  counted := hbooked.counted hkeeps.counted
  issued h hmem := by
    have := hkeeps.issued h hmem
    have := hbooked.length_records h.kind
    omega
  existing h r s hr hs := hkeeps.existing_booked hbooked hr hs
  apart h r s hr hs hours := by
    rcases hbooked.session_cases hr hs with ⟨r, hr, hs⟩ | ⟨-, hmem, -⟩
    · exact hkeeps.apart h r s hr hs hours
    · exact huses s.any hmem

theorem sameHandles_operate (b : Broker) (now : Nat) (o : Operation) (h : ∀ c, o ≠ .call c) :
    b.SameHandles (b.operate now o).2 := by
  cases o with
  | declare d =>
      simp only [operate, declare]
      split <;> exact ⟨rfl, rfl, rfl, rfl, rfl⟩
  | receive name =>
      simp only [operate, receive]
      split <;> exact ⟨rfl, rfl, rfl, rfl, rfl⟩
  | failNext point =>
      simp only [operate, failNext]
      split <;> exact ⟨rfl, rfl, rfl, rfl, rfl⟩
  | call c => exact absurd rfl (h c)
  | _ => exact ⟨rfl, rfl, rfl, rfl, rfl⟩

/-- Whatever is done with a broker, a handle that was given out stays known, and is not opened
again. -/
theorem record?_operate_of_known {b : Broker} {h : AnyHandle} {r : Record}
    (hr : b.record? h = some r) (now : Nat) (o : Operation) :
    ∃ r', (b.operate now o).2.record? h = some r' ∧ (r'.isOpen = true → r.isOpen = true) := by
  by_cases hcall : ∃ c, o = .call c
  · obtain ⟨c, rfl⟩ := hcall
    exact (b.booked_perform now c).record?_of_known hr
  · have hsame := b.sameHandles_operate now o fun c hc => hcall ⟨c, hc⟩
    exact ⟨r, by rw [record?, hsame.records, ← record?, hr], id⟩

theorem Keeps.congr {b b' : Broker} {ours : List AnyHandle} (hkeeps : b.Keeps ours)
    (hsame : b.SameHandles b') : b'.Keeps ours := by
  have hrecords := hsame.records
  have hrecord : b'.record? = b.record? := by
    funext h
    rw [record?, hrecords, record?]
  refine ⟨?_, ?_, ?_, ?_⟩
  · intro kind
    rw [hrecords, hsame.openHandles]
    exact hkeeps.counted kind
  · rw [hrecords]
    exact hkeeps.issued
  · rw [hrecords, hrecord]
    exact hkeeps.existing
  · rw [hrecord]
    exact hkeeps.apart

/-- What is kept stays as it is whatever others do with what they hold. -/
theorem Keeps.operate {b : Broker} {ours : List AnyHandle} (hkeeps : b.Keeps ours) (now : Nat)
    {o : Operation} (huses : ∀ h ∈ o.uses, h ∉ ours) :
    (b.operate now o).2.Keeps ours ∧
      ∀ h ∈ ours, (b.operate now o).2.record? h = b.record? h := by
  by_cases hcall : ∃ c, o = .call c
  · obtain ⟨c, rfl⟩ := hcall
    have hbooked := b.booked_perform now c
    refine ⟨hkeeps.theirs hbooked huses, ?_⟩
    intro h hmem
    refine hbooked.record? (hkeeps.issued h hmem) ?_
    intro htouched
    exact hkeeps.touched_theirs huses h htouched hmem
  · have hsame := b.sameHandles_operate now o fun c hc => hcall ⟨c, hc⟩
    refine ⟨hkeeps.congr hsame, ?_⟩
    intro h _
    rw [record?, hsame.records, record?]

end Broker

end Sluice
