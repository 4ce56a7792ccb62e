import Mathlib.Tactic.Ring
import Sluice.Proofs.Task.Terms
import Sluice.Resources.Lifecycle

/-! # Taking hold of handles and giving them back

A stretch of work is judged by the handles that it leaves alone and by what it adds to the number of
open handles of each kind. Stretches add up, what others do in between counts for nothing, and a
closed handle counts against the one that was opened, whether or not closing it is reported as
failed.
-/

namespace Sluice

/-- How much the number of open handles of a kind grew by events. -/
def gained (kind : HandleKind) (events : List Event) : Int :=
  (events.map fun e =>
    (e.after.broker.openHandles.count kind : Int) - e.before.broker.openHandles.count kind).sum

@[simp] theorem gained_append (kind : HandleKind) (first second : List Event) :
    gained kind (first ++ second) = gained kind first + gained kind second := by
  simp [gained]

/-- A handle of one kind. -/
def oneOf (kind : HandleKind) : HandleKind → Int := fun k => if k = kind then 1 else 0

/-- A handle of each kind that a manager holds. -/
def oneOfEach : HandleKind → Int :=
  fun kind => oneOf .connection kind + (oneOf .session kind + oneOf .producer kind)

namespace Call

/-- The handle that a call closes. -/
def closes : Call → Option AnyHandle
  | .closeConnection c => some c.any
  | .closeSession s => some s.any
  | .closeProducer p => some p.any
  | .closeBrowser w => some w.any
  | _ => none

theorem touched_of_closes {c : Call} {h : AnyHandle} (hc : c.closes = some h) (b : Broker) :
    b.touched c = [h] := by
  cases c <;> simp_all [closes, Broker.touched, uses]

theorem isClosing_of_closes {c : Call} {h : AnyHandle} (hc : c.closes = some h) :
    c.isClosing = true := by
  cases c <;> first | rfl | cases hc

end Call

namespace Broker

variable {b b' : Broker} {now : Nat}

theorem record?_connection {c : Handle .connection} {isOpen : Bool} :
    b.record? c.any = some (.connection isOpen) ↔ b.connections[c.index]? = some isOpen := by
  simp [record?, records, Handle.any]

theorem record?_session {s : Handle .session} {r : SessionRecord} :
    b.record? s.any = some (.session r) ↔ b.sessions[s.index]? = some r := by
  simp [record?, records, Handle.any]

theorem record?_producer {p : Handle .producer} {r : ProducerRecord} :
    b.record? p.any = some (.producer r) ↔ b.producers[p.index]? = some r := by
  simp [record?, records, Handle.any]

theorem record?_browser {w : Handle .browser} {r : BrowserRecord} :
    b.record? w.any = some (.browser r) ↔ b.browsers[w.index]? = some r := by
  simp [record?, records, Handle.any]

theorem SameHandles.record? (hsame : b.SameHandles b') : b'.record? = b.record? := by
  funext h
  rw [Broker.record?, hsame.records, Broker.record?]

/-- A call that fails and closes nothing leaves all handles as they are. -/
theorem Effect.failed {c : Call} {e : BrokerError} (h : b.Effect now c (.error e) b')
    (hc : c.closes = none) : b.SameHandles b' := by
  cases h with
  | refused => exact ⟨rfl, rfl, rfl, rfl, rfl⟩
  | faulted => exact ⟨rfl, rfl, rfl, rfl, rfl⟩
  | disconnected => simp [Call.closes] at hc
  | sessionClosed => simp [Call.closes] at hc
  | producerClosed => simp [Call.closes] at hc

/-- Closing a handle that is open takes effect however it is reported. -/
theorem Effect.closing {c : Call} {reply : c.Reply} {h : AnyHandle} {r : Record}
    (heffect : b.Effect now c reply b') (hc : c.closes = some h) (hr : b.record? h = some r)
    (hopen : r.isOpen) : b'.openHandles = b.openHandles.update (· - 1) h.kind := by
  cases heffect with
  -- calls that close are never refused, and their faults are reported only
  | refused e he hclosing => simp [Call.isClosing_of_closes hc] at hclosing
  | faulted hpoint harmed hclosing => simp [Call.isClosing_of_closes hc] at hclosing
  | disconnected c hreported =>
      obtain rfl := Option.some.inj hc
      have hsame := hreported.sameHandles
      have hopened : b.connections[c.index]? = some true := by
        cases r <;> simp_all [record?, records, Handle.any, Record.isOpen]
      simp [dropConnection, connectionOpen, hsame.connections, hopened, countClosed,
        hsame.openHandles, Handle.any]
  | sessionClosed s hreported =>
      obtain rfl := Option.some.inj hc
      have hsame := hreported.sameHandles
      obtain ⟨record, hrecord, hopened⟩ : ∃ r, b.sessions[s.index]? = some r ∧ r.isOpen := by
        cases r <;> simp_all [record?, records, Handle.any, Record.isOpen]
      simp [dropSession, modifySession, sessionOpen, hsame.sessions, hrecord, hopened, countClosed,
        hsame.openHandles, Handle.any]
  | producerClosed p hreported =>
      obtain rfl := Option.some.inj hc
      have hsame := hreported.sameHandles
      obtain ⟨record, hrecord, hopened⟩ : ∃ r, b.producers[p.index]? = some r ∧ r.isOpen := by
        cases r <;> simp_all [record?, records, Handle.any, Record.isOpen]
      have hfound : Broker.openProducer? _ p = some record :=
        openProducer?_eq_some.mpr ⟨hsame.producers ▸ hrecord, hopened⟩
      simp [dropProducer, hfound, countClosed, hsame.openHandles, Handle.any]
  | browserGone w hgone =>
      obtain rfl := Option.some.inj hc
      cases r <;> simp_all [record?, records, Handle.any, Record.isOpen, openBrowser?]
  | browserClosed w hopened =>
      obtain rfl := Option.some.inj hc
      rfl
  | _ => simp [Call.closes] at hc

theorem Counted.pos_of_open (hcounted : b.Counted) {h : AnyHandle} {r : Record}
    (hr : b.record? h = some r) (hopen : r.isOpen) : 0 < b.openHandles.count h.kind := by
  rw [hcounted h.kind]
  exact List.countP_pos_iff.mpr ⟨r, List.mem_of_getElem? hr, hopen⟩

end Broker

/-- A stretch of work of a task, which leaves the handles of `held` alone and changes the number of
open handles by `grown`. -/
structure Stretch (i : Nat) (held : List AnyHandle) (grown : HandleKind → Int) (m m' : Moment) :
    Prop where
  manager : m'.manager = m.manager
  mine : ∀ h ∈ m.ours, h ∈ m'.ours
  keeps : m'.broker.Keeps m'.ours
  record : ∀ h ∈ held, m'.broker.record? h = m.broker.record? h
  gained : ∀ kind, gained kind (m'.own i) = gained kind (m.own i) + grown kind

namespace Stretch

variable {i : Nat} {held : List AnyHandle} {grown grown' : HandleKind → Int} {m m' m'' : Moment}

theorem refl (hkeeps : m.broker.Keeps m.ours) (held : List AnyHandle) :
    Stretch i held (fun _ => 0) m m :=
  ⟨rfl, fun _ h => h, hkeeps, fun _ _ => rfl, fun _ => (Int.add_zero _).symm⟩

theorem trans (h : Stretch i held grown m m') (h' : Stretch i held grown' m' m'') :
    Stretch i held (fun kind => grown kind + grown' kind) m m'' where
  manager := h'.manager.trans h.manager
  mine k hk := h'.mine k (h.mine k hk)
  keeps := h'.keeps
  record k hk := (h'.record k hk).trans (h.record k hk)
  gained kind := by
    rw [h'.gained, h.gained]
    ring

/-- The same stretch, with less left alone and its growth written in another way. -/
theorem weaken {held' : List AnyHandle} (h : Stretch i held grown m m')
    (hheld : ∀ k ∈ held', k ∈ held) (hgrown : ∀ kind, grown kind = grown' kind) :
    Stretch i held' grown' m m' :=
  ⟨h.manager, h.mine, h.keeps, fun k hk => h.record k (hheld k hk),
    fun kind => hgrown kind ▸ h.gained kind⟩

/-- A stretch goes on and leaves alone whatever the station had. -/
theorem trans_mine (h : Stretch i m.ours grown m m') (h' : Stretch i m'.ours grown' m' m'') :
    Stretch i m.ours (fun kind => grown kind + grown' kind) m m'' :=
  h.trans (h'.weaken h.mine fun _ => rfl)

/-- A stretch goes on, and in the end as many handles are open as before. -/
theorem trans_same (h : Stretch i m.ours grown m m')
    (h' : Stretch i m'.ours (fun _ => 0) m' m'') : Stretch i m.ours grown m m'' :=
  (h.trans_mine h').weaken (fun _ hk => hk) fun _ => Int.add_zero _

theorem drift (h : Stretch i held grown m m') (hheld : ∀ k ∈ held, k ∈ m'.ours)
    (hdrift : Drift i m' m'') : Stretch i held grown m m'' := by
  have hframe := hdrift.frame h.keeps
  refine ⟨hframe.manager.trans h.manager, ?_, hframe.keeps, ?_, ?_⟩
  · intro k hk
    rw [hframe.ours]
    exact h.mine k hk
  · intro k hk
    rw [hframe.record k (hheld k hk), h.record k hk]
  · intro kind
    rw [hframe.own, h.gained]

theorem idled (hkeeps : m.broker.Keeps m.ours) (i : Nat) (d : Deed) :
    Stretch i m.ours (fun _ => 0) m (m.idled i d) where
  manager := rfl
  mine k hk := hk
  keeps := hkeeps
  record k _ := rfl
  gained kind := by simp [Sluice.gained]

/-- A call with what it does to the number of open handles. -/
theorem called {c : Call} {reply : c.Reply} {b : Broker} (hkeeps : m.broker.Keeps m.ours)
    (heffect : m.broker.Effect m.now c reply b) (hheld : ∀ k ∈ held, k ∈ m.ours)
    (htouched : ∀ k ∈ m.broker.touched c, k ∉ held)
    (hgrown : ∀ kind, (b.openHandles.count kind : Int) =
      m.broker.openHandles.count kind + grown kind) :
    Stretch i held grown m (m.called i c reply b) where
  manager := rfl
  mine k hk := List.mem_append_left _ hk
  keeps := hkeeps.ours heffect.booked
  record k hk :=
    heffect.booked.record? (hkeeps.issued k (hheld k hk)) fun hmem => htouched k hmem hk
  gained kind := by
    rw [Moment.own_called, gained_append]
    simp only [Sluice.gained, List.map_cons, List.map_nil, List.sum_cons, List.sum_nil]
    have := hgrown kind
    omega

/-- A call after which all handles are as they were. -/
theorem called_same {c : Call} {reply : c.Reply} {b : Broker} (hkeeps : m.broker.Keeps m.ours)
    (heffect : m.broker.Effect m.now c reply b) (hsame : m.broker.SameHandles b) :
    Stretch i m.ours (fun _ => 0) m (m.called i c reply b) where
  manager := rfl
  mine k hk := List.mem_append_left _ hk
  keeps := hkeeps.ours heffect.booked
  record k _ := by
    change b.record? k = m.broker.record? k
    rw [hsame.record?]
  gained kind := by
    rw [Moment.own_called, gained_append]
    simp [Sluice.gained, hsame.openHandles]

/-- A call that gives a handle out. -/
theorem called_opening {c : Call} {reply : c.Reply} {b : Broker} {h : AnyHandle}
    (hkeeps : m.broker.Keeps m.ours) (heffect : m.broker.Effect m.now c reply b)
    (hopened : c.opened reply = [h]) :
    Stretch i m.ours (oneOf h.kind) m (m.called i c reply b) ∧
      h ∈ (m.called i c reply b).ours ∧ h ∉ m.ours := by
  have hmem : h ∈ c.opened reply := by rw [hopened]; exact List.mem_singleton_self h
  have hindex := heffect.booked.index_opened hmem
  refine ⟨⟨rfl, fun k hk => List.mem_append_left _ hk, hkeeps.ours heffect.booked, ?_, ?_⟩,
    List.mem_append_right _ hmem, ?_⟩
  · intro k hk
    cases heffect.booked with
    | added kind r hopened hopen hsession hrecords hcount =>
        change b.record? k = m.broker.record? k
        rw [Broker.record?_append hrecords, if_neg]
        rintro rfl
        exact absurd rfl (Nat.ne_of_lt (hkeeps.issued _ hk))
    | same hnone => simp [hopened] at hnone
    | changed _ _ _ hnone => simp [hopened] at hnone
    | closed _ _ _ hnone => simp [hopened] at hnone
  · intro kind
    rw [Moment.own_called, gained_append]
    cases heffect.booked with
    | added other r hadded hopen hsession hrecords hcount =>
        rw [hopened, List.cons.injEq] at hadded
        rw [hadded.1]
        simp only [Sluice.gained, List.map_cons, List.map_nil, List.sum_cons, List.sum_nil, hcount,
          Broker.count_update, oneOf]
        split <;> omega
    | same hnone => simp [hopened] at hnone
    | changed _ _ _ hnone => simp [hopened] at hnone
    | closed _ _ _ hnone => simp [hopened] at hnone
  · intro hmine
    exact absurd hindex (Nat.ne_of_lt (hkeeps.issued h hmine))

/-- A call that closes a handle which is open. -/
theorem called_closing {c : Call} {reply : c.Reply} {b : Broker} {h : AnyHandle} {r : Record}
    (hkeeps : m.broker.Keeps m.ours) (heffect : m.broker.Effect m.now c reply b)
    (hheld : ∀ k ∈ held, k ∈ m.ours) (hc : c.closes = some h) (hnot : h ∉ held)
    (hr : m.broker.record? h = some r) (hopen : r.isOpen) :
    Stretch i held (fun kind => -oneOf h.kind kind) m (m.called i c reply b) := by
  refine called hkeeps heffect hheld ?_ ?_
  · rw [Call.touched_of_closes hc]
    simpa using hnot
  · intro kind
    have hpos := hkeeps.counted.pos_of_open hr hopen
    rw [heffect.closing hc hr hopen, Broker.count_update]
    by_cases hkind : kind = h.kind
    · subst hkind
      simp only [if_true, oneOf]
      omega
    · simp [hkind, oneOf]

end Stretch

end Sluice
