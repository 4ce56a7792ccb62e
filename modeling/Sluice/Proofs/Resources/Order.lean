import Sluice.Proofs.Resources.Holdings

/-! # Managers in order

A manager is in order when it holds nothing, or when it is ready and what it holds is there: an open
connection, an open session which has put nothing aside, and an open producer of that session with
the configured settings. Acquiring either opens one handle of each kind and ends in order, or gives
back whatever it has opened; releasing closes one of each kind.
-/

namespace Sluice

/-- What a session has put aside when nothing is under way. -/
def Resources.settled (held : Resources) : Option (List Parcel) :=
  if held.transacted then some [] else none

/-- The broker serves the resources that were opened by some settings, and their session has put
something aside. -/
structure Broker.Serves (b : Broker) (ours : List AnyHandle) (settings : ConnectionSettings)
    (held : Resources) (pending : Option (List Parcel)) : Prop where
  connection_mine : held.connection.any ∈ ours
  session_mine : held.session.any ∈ ours
  producer_mine : held.producer.any ∈ ours
  connection : b.record? held.connection.any = some (.connection true)
  session : b.record? held.session.any = some (.session { pending })
  producer : b.record? held.producer.any =
    some (.producer {
      session := held.session
      destination := held.destination.name
      settings := settings.delivery })
  transacted : held.transacted = settings.transacted

/-- The manager holds what its state says. -/
inductive Manager.Stands (fits : ConnectionSettings → Prop) (b : Broker) (ours : List AnyHandle) :
    Manager → Prop
  | idle (state : LifecycleState)
      (h : state = .uninitialized ∨ state = .failed ∨ state = .closed) :
      Stands fits b ours { state, held := none }
  | ready (settings : ConnectionSettings) (held : Resources) (hfits : fits settings)
      (hserves : b.Serves ours settings held held.settled) :
      Stands fits b ours { state := .ready, held := some held }

/-- The handles of the station are kept apart, and the manager holds what its state says. -/
structure InOrder (fits : ConnectionSettings → Prop) (m : Moment) : Prop where
  keeps : m.broker.Keeps m.ours
  stands : m.manager.Stands fits m.broker m.ours

/-- Browsers have nothing to do with what a manager holds. -/
theorem Broker.Serves.beside_browsers {b b' : Broker} {ours ours' : List AnyHandle}
    {settings : ConnectionSettings} {held : Resources} {pending : Option (List Parcel)}
    (h : b.Serves ours settings held pending)
    (hrecord : ∀ k ∈ ours, k.kind ≠ .browser → b'.record? k = b.record? k)
    (hours : ∀ k ∈ ours, k ∈ ours') : b'.Serves ours' settings held pending where
  connection_mine := hours _ h.connection_mine
  session_mine := hours _ h.session_mine
  producer_mine := hours _ h.producer_mine
  connection := (hrecord _ h.connection_mine (by simp [Handle.any])).trans h.connection
  session := (hrecord _ h.session_mine (by simp [Handle.any])).trans h.session
  producer := (hrecord _ h.producer_mine (by simp [Handle.any])).trans h.producer
  transacted := h.transacted

theorem Broker.Serves.congr {b b' : Broker} {ours ours' : List AnyHandle}
    {settings : ConnectionSettings} {held : Resources} {pending : Option (List Parcel)}
    (h : b.Serves ours settings held pending) (hrecord : ∀ k ∈ ours, b'.record? k = b.record? k)
    (hours : ∀ k ∈ ours, k ∈ ours') : b'.Serves ours' settings held pending :=
  h.beside_browsers (fun k hk _ => hrecord k hk) hours

theorem Manager.Stands.congr {fits : ConnectionSettings → Prop} {b b' : Broker}
    {ours ours' : List AnyHandle} {x : Manager} (h : x.Stands fits b ours)
    (hrecord : ∀ k ∈ ours, b'.record? k = b.record? k) (hours : ∀ k ∈ ours, k ∈ ours') :
    x.Stands fits b' ours' := by
  cases h with
  | idle state h => exact .idle state h
  | ready settings held hfits hserves =>
      exact .ready settings held hfits (hserves.congr hrecord hours)

/-- A manager that is not ready holds nothing. -/
theorem Manager.Stands.held_eq_none {fits : ConnectionSettings → Prop} {b : Broker}
    {ours : List AnyHandle} {x : Manager} (h : x.Stands fits b ours) (hstate : x.state ≠ .ready) :
    x.held = none := by
  cases h with
  | idle => rfl
  | ready => exact absurd rfl hstate

theorem InOrder.stretch {fits : ConnectionSettings → Prop} {i : Nat} {grown : HandleKind → Int}
    {m m' : Moment} (h : InOrder fits m) (hstretch : Stretch i m.ours grown m m') :
    InOrder fits m' := by
  refine ⟨hstretch.keeps, ?_⟩
  rw [hstretch.manager]
  exact h.stands.congr hstretch.record hstretch.mine

theorem stable_inOrder (fits : ConnectionSettings → Prop) : Stable (InOrder fits) := by
  intro i m m' hshift h
  have hframe := hshift.frame h.keeps
  refine ⟨hframe.keeps, ?_⟩
  rw [hframe.manager]
  apply h.stands.congr hframe.record
  intro k hk
  rw [hframe.ours]
  exact hk

/-- Whenever the lock may pass to another, the manager is in order. -/
def Terms.order (fits : ConnectionSettings → Prop) : Terms where
  safe _ := True
  calm := InOrder fits
  resting _ := True
  safe_of_calm _ _ := trivial
  calm_stable := stable_inOrder fits

namespace Manager

open Terms

section Rules

variable {α : Type} {fits : ConnectionSettings → Prop} {i : Nat} {m₀ m : Moment}
variable {held : List AnyHandle} {grown : HandleKind → Int} {Q : α → Moment → Prop}

/-- A call at some point of a stretch. -/
theorem secures_call_on {c : Call} {f : c.Reply → Work α} (hupto : Stretch i held grown m₀ m)
    (hheld : ∀ k ∈ held, k ∈ m₀.ours)
    (h : ∀ m' reply b, Stretch i held grown m₀ m' → Frame i m m' →
      m'.broker.Effect m'.now c reply b →
        (order fits).Secures i Q (f reply) (m'.called i c reply b)) :
    (order fits).Secures i Q (Work.call c >>= f) m := by
  refine secures_call fun m' hdrift => ⟨trivial, fun reply b _ heffect => ?_⟩
  have hmine : ∀ k ∈ held, k ∈ m.ours := fun k hk => hupto.mine k (hheld k hk)
  exact h m' reply b (hupto.drift hmine hdrift) (hdrift.frame hupto.keeps) heffect

/-- The end of a stretch. -/
theorem secures_done_on {x : α} (hupto : Stretch i held grown m₀ m)
    (hheld : ∀ k ∈ held, k ∈ m₀.ours)
    (h : ∀ m', Stretch i held grown m₀ m' → Frame i m m' → Q x m') :
    (order fits).Secures i Q (Script.done x) m := by
  refine secures_done fun m' hdrift => ⟨trivial, ?_⟩
  have hmine : ∀ k ∈ held, k ∈ m.ours := fun k hk => hupto.mine k (hheld k hk)
  exact h m' (hupto.drift hmine hdrift) (hdrift.frame hupto.keeps)

/-- Closing a handle that is open, and of which nothing is left alone. -/
theorem secures_closing {c : Call} {h : AnyHandle} {r : Record} {f : Unit → Work α}
    (hupto : Stretch i held grown m₀ m) (hheld : ∀ k ∈ held, k ∈ m₀.ours)
    (hc : c.closes = some h) (hmine : h ∈ m.ours) (hnot : h ∉ held)
    (hr : m.broker.record? h = some r) (hopen : r.isOpen)
    (hnext : ∀ m', Stretch i held (fun kind => grown kind - oneOf h.kind kind) m₀ m' →
      (∀ k ∈ m.ours, k ≠ h → m'.broker.record? k = m.broker.record? k) →
      (∀ k ∈ m.ours, k ∈ m'.ours) → (order fits).Secures i Q (f ()) m') :
    (order fits).Secures i Q (tryCall c >>= f) m := by
  apply secures_call_on hupto hheld
  intro m' reply b hupto' hframe heffect
  have hr' : m'.broker.record? h = some r := (hframe.record h hmine).trans hr
  have hclosed := Stretch.called_closing (i := i) hframe.keeps heffect
    (fun k hk => hupto'.mine k (hheld k hk)) hc hnot hr' hopen
  refine hnext _ ((hupto'.trans hclosed).weaken (fun _ hk => hk) fun kind => by ring) ?_ ?_
  · intro k hk hne
    have hissued : k ∈ m'.ours := by
      rw [hframe.ours]
      exact hk
    rw [← hframe.record k hk]
    refine heffect.booked.record? (hframe.keeps.issued k hissued) ?_
    rw [Call.touched_of_closes hc, List.mem_singleton]
    exact hne
  · intro k hk
    apply List.mem_append_left _
    rw [hframe.ours]
    exact hk

/-- Closing the one handle that was opened in a stretch, whose end leaves nothing behind then. -/
theorem secures_undone {c : Call} {h : AnyHandle} {r : Record} {x : α}
    (hupto : Stretch i m₀.ours grown m₀ m) (hgrown : ∀ kind, grown kind = oneOf h.kind kind)
    (hc : c.closes = some h) (hmine : h ∈ m.ours) (hnew : h ∉ m₀.ours)
    (hr : m.broker.record? h = some r) (hopen : r.isOpen)
    (hpost : ∀ m', Stretch i m₀.ours (fun _ => 0) m₀ m' → Q x m') :
    (order fits).Secures i Q (tryCall c >>= fun _ => Script.done x) m := by
  have hours : ∀ k ∈ m₀.ours, k ∈ m₀.ours := fun _ hk => hk
  refine secures_closing hupto hours hc hmine hnew hr hopen fun m₁ hupto₁ _ _ => ?_
  apply secures_done_on hupto₁ hours
  intro m₂ hupto₂ _
  exact hpost m₂ (hupto₂.weaken hours fun kind => by simp [hgrown])

end Rules

variable {fits : ConnectionSettings → Prop} {i : Nat} {m : Moment}

/-- What opening a producer comes to. -/
def ProducerOpened (i : Nat) (settings : ConnectionSettings) (session : Handle .session)
    (d : Destination) (m : Moment) : Except ConfigurationError (Handle .producer) → Moment → Prop
  | .error _, m' => Stretch i m.ours (fun _ => 0) m m'
  | .ok p, m' => Stretch i m.ours (oneOf .producer) m m' ∧ p.any ∈ m'.ours ∧ p.any ∉ m.ours ∧
      m'.broker.record? p.any =
        some (.producer { session, destination := d.name, settings := settings.delivery })

theorem secures_openProducer (settings : ConnectionSettings) (session : Handle .session)
    (d : Destination) (hkeeps : m.broker.Keeps m.ours) :
    (order fits).Secures i (ProducerOpened i settings session d m)
      (openProducer settings session d) m := by
  have hmine : ∀ k ∈ m.ours, k ∈ m.ours := fun _ hk => hk
  apply secures_call_on (.refl hkeeps m.ours) hmine
  intro m₁ reply b hupto hframe heffect
  cases reply with
  | error e =>
      have hfailed := Stretch.called_same (i := i) hframe.keeps heffect (heffect.failed rfl)
      exact secures_done_on (hupto.trans_same hfailed) hmine fun m₂ hupto₂ _ => hupto₂
  | ok p =>
      change Handle .producer at p
      obtain ⟨hopened, hp, hnew⟩ :=
        Stretch.called_opening (i := i) (h := p.any) hframe.keeps heffect rfl
      have hrecord : b.record? p.any = some (.producer { session, destination := d.name }) := by
        cases heffect with
        | producerOpened => simp [Broker.record?_producer, Broker.countOpened]
      rw [hframe.ours] at hopened hnew
      -- from here on there is a producer, which is closed again unless it takes the settings
      refine secures_call_on (hupto.trans hopened) hmine
        fun m₂ reply b' hupto₂ hframe₂ heffect₂ => ?_
      have hrecord₂ := (hframe₂.record _ hp).trans hrecord
      rw [← hframe₂.ours] at hp
      cases reply with
      | ok u =>
          have happlied : Stretch i m.ours (fun _ => 0) m₂ (m₂.called i _ (.ok u) b') := by
            refine Stretch.called hframe₂.keeps heffect₂ hupto₂.mine ?_ ?_
            · simpa [Broker.touched, Call.uses] using hnew
            · cases heffect₂ with
              | applied => simp
          have hset : b'.record? p.any = some
              (.producer { session, destination := d.name, settings := settings.delivery }) := by
            have hproducer := Broker.record?_producer.mp hrecord₂
            cases heffect₂ with
            | applied => simp [Broker.record?_producer, hproducer]
          have hp' := happlied.mine _ hp
          apply secures_done_on (hupto₂.trans happlied) hmine
          intro m₃ hupto₃ hframe₃
          refine ⟨hupto₃.weaken hmine fun kind => by simp [Handle.any], ?_, hnew,
            (hframe₃.record _ hp').trans hset⟩
          rw [hframe₃.ours]
          exact hp'
      | error e =>
          have hfailed := Stretch.called_same (i := i) hframe₂.keeps heffect₂ (heffect₂.failed rfl)
          exact secures_undone (hupto₂.trans_same hfailed) (fun kind => by simp [Handle.any]) rfl
            (hfailed.mine _ hp) hnew ((hfailed.record _ hp).trans hrecord₂) rfl
            fun m₃ hupto₃ => hupto₃

/-- What opening a session and a producer comes to. -/
def SessionOpened (i : Nat) (settings : ConnectionSettings) (d : Destination) (m : Moment) :
    Except ConfigurationError (Handle .session × Handle .producer) → Moment → Prop
  | .error _, m' => Stretch i m.ours (fun _ => 0) m m'
  | .ok (session, p), m' =>
      Stretch i m.ours (fun kind => oneOf .session kind + oneOf .producer kind) m m' ∧
        session.any ∈ m'.ours ∧ p.any ∈ m'.ours ∧
        m'.broker.record? session.any =
          some (.session { pending := if settings.transacted then some [] else none }) ∧
        m'.broker.record? p.any =
          some (.producer { session, destination := d.name, settings := settings.delivery })

theorem secures_openSession (settings : ConnectionSettings) (connection : Handle .connection)
    (d : Destination) (hkeeps : m.broker.Keeps m.ours) :
    (order fits).Secures i (SessionOpened i settings d m) (openSession settings connection d)
      m := by
  have hmine : ∀ k ∈ m.ours, k ∈ m.ours := fun _ hk => hk
  apply secures_call_on (.refl hkeeps m.ours) hmine
  intro m₁ reply b hupto hframe heffect
  cases reply with
  | error e =>
      have hfailed := Stretch.called_same (i := i) hframe.keeps heffect (heffect.failed rfl)
      exact secures_done_on (hupto.trans_same hfailed) hmine fun m₂ hupto₂ _ => hupto₂
  | ok session =>
      change Handle .session at session
      obtain ⟨hopened, hsession, hnew⟩ :=
        Stretch.called_opening (i := i) (h := session.any) hframe.keeps heffect rfl
      have hrecord : b.record? session.any =
          some (.session { pending := if settings.transacted then some [] else none }) := by
        cases heffect with
        | sessionOpened => simp [Broker.record?_session, Broker.countOpened]
      rw [hframe.ours] at hopened hnew
      have hupto := hupto.trans hopened
      refine Secures.bind ((secures_openProducer settings session d hopened.keeps).mono
        fun x m₂ hx => ?_)
      cases x with
      | error e =>
          exact secures_undone (hupto.trans_same hx) (fun kind => by simp [Handle.any]) rfl
            (hx.mine _ hsession) hnew ((hx.record _ hsession).trans hrecord) rfl
            fun m₃ hupto₃ => hupto₃
      | ok p =>
          obtain ⟨hproduced, hp, hpnew, hproducer⟩ := hx
          have hupto₂ := hupto.trans_mine hproduced
          have hrecord₂ := (hproduced.record _ hsession).trans hrecord
          have hsession₂ := hproduced.mine _ hsession
          have hpnew₂ : p.any ∉ m.ours := fun hk => hpnew (hupto.mine _ hk)
          apply secures_call_on hupto₂ hmine
          intro m₃ reply b' hupto₃ hframe₃ heffect₃
          have hsame : m₃.broker.SameHandles b' := by
            cases reply with
            | error e => exact heffect₃.failed rfl
            | ok u =>
                cases heffect₃ with
                | started => exact ⟨rfl, rfl, rfl, rfl, rfl⟩
          have hstarted := Stretch.called_same (i := i) hframe₃.keeps heffect₃ hsame
          have hupto₄ := hupto₃.trans_same hstarted
          rw [← hframe₃.ours] at hp hsession₂
          have hrecord₃ := (hstarted.record _ hsession₂).trans
            ((hframe₃.record _ (hproduced.mine _ hsession)).trans hrecord₂)
          have hproducer₃ : b'.record? p.any = _ := (hstarted.record _ hp).trans
            ((hframe₃.record _ (by rw [← hframe₃.ours]; exact hp)).trans hproducer)
          have hsession₃ := hstarted.mine _ hsession₂
          have hp₃ := hstarted.mine _ hp
          cases reply with
          | ok u =>
              apply secures_done_on hupto₄ hmine
              intro m₅ hupto₅ hframe₅
              refine ⟨hupto₅.weaken hmine fun kind => by simp [Handle.any], ?_, ?_,
                (hframe₅.record _ hsession₃).trans hrecord₃,
                (hframe₅.record _ hp₃).trans hproducer₃⟩
              · rw [hframe₅.ours]
                exact hsession₃
              · rw [hframe₅.ours]
                exact hp₃
          | error e =>
              -- the connection did not start: the producer is closed, and then its session
              have hne : session.any ≠ p.any := by
                intro heq
                simpa [Handle.any] using congrArg AnyHandle.kind heq
              refine secures_closing hupto₄ hmine rfl hp₃ hpnew₂ hproducer₃ rfl
                fun m₅ hupto₅ hothers hmine₅ => ?_
              exact secures_undone hupto₅ (fun kind => by simp [Handle.any]) rfl
                (hmine₅ _ hsession₃) hnew ((hothers _ hsession₃ hne).trans hrecord₃) rfl
                fun m₆ hupto₆ => hupto₆

/-- What acquiring resources comes to. -/
def Acquired (i : Nat) (settings : ConnectionSettings) (m : Moment) :
    Except ConfigurationError Resources → Moment → Prop
  | .error _, m' => Stretch i m.ours (fun _ => 0) m m'
  | .ok held, m' =>
      Stretch i m.ours oneOfEach m m' ∧ m'.broker.Serves m'.ours settings held held.settled

theorem secures_openResources (settings : ConnectionSettings) (d : Destination)
    (hkeeps : m.broker.Keeps m.ours) :
    (order fits).Secures i (Acquired i settings m) (openResources settings d) m := by
  have hmine : ∀ k ∈ m.ours, k ∈ m.ours := fun _ hk => hk
  apply secures_call_on (.refl hkeeps m.ours) hmine
  intro m₁ reply b hupto hframe heffect
  cases reply with
  | error e =>
      have hfailed := Stretch.called_same (i := i) hframe.keeps heffect (heffect.failed rfl)
      exact secures_done_on (hupto.trans_same hfailed) hmine fun m₂ hupto₂ _ => hupto₂
  | ok connection =>
      change Handle .connection at connection
      obtain ⟨hopened, hconnection, hnew⟩ :=
        Stretch.called_opening (i := i) (h := connection.any) hframe.keeps heffect rfl
      have hrecord : b.record? connection.any = some (.connection true) := by
        cases heffect with
        | connected => simp [Broker.record?_connection, Broker.countOpened]
      rw [hframe.ours] at hopened hnew
      have hupto := hupto.trans hopened
      refine Secures.bind ((secures_openSession settings connection d hopened.keeps).mono
        fun x m₂ hx => ?_)
      cases x with
      | error e =>
          exact secures_undone (hupto.trans_same hx) (fun kind => by simp [Handle.any]) rfl
            (hx.mine _ hconnection) hnew ((hx.record _ hconnection).trans hrecord) rfl
            fun m₃ hupto₃ => hupto₃
      | ok pair =>
          obtain ⟨session, p⟩ := pair
          obtain ⟨hstretch, hsession, hp, hsessionRecord, hproducerRecord⟩ := hx
          have hupto₂ := hupto.trans_mine hstretch
          apply secures_done_on hupto₂ hmine
          intro m₃ hupto₃ hframe₃
          have hconnection₂ := hstretch.mine _ hconnection
          refine ⟨hupto₃.weaken hmine fun kind => by simp [Handle.any, oneOfEach], ?_, ?_, ?_, ?_,
            ?_, ?_, rfl⟩
          · rw [hframe₃.ours]
            exact hconnection₂
          · rw [hframe₃.ours]
            exact hsession
          · rw [hframe₃.ours]
            exact hp
          · rw [hframe₃.record _ hconnection₂, hstretch.record _ hconnection]
            exact hrecord
          · exact (hframe₃.record _ hsession).trans hsessionRecord
          · exact (hframe₃.record _ hp).trans hproducerRecord

/-- A look into the directory leaves all handles alone. -/
theorem secures_lookup_on {α : Type} {name : String} {properties : Properties}
    {f : Except NamingError Entry → Work α} {Q : α → Moment → Prop} {m₀ : Moment}
    (hupto : Stretch i m₀.ours (fun _ => 0) m₀ m)
    (h : ∀ found m', Stretch i m₀.ours (fun _ => 0) m₀ m' →
      (order fits).Secures i Q (f found) m') :
    (order fits).Secures i Q (Work.lookup name properties >>= f) m := by
  refine secures_lookup fun m' hdrift => ⟨trivial, fun found => h found _ ?_⟩
  have hupto' := hupto.drift hupto.mine hdrift
  exact hupto'.trans_same (Stretch.idled hupto'.keeps i .other)

theorem secures_acquire (config : Config) (files : Files) (defaults : Properties)
    (hkeeps : m.broker.Keeps m.ours) :
    (order fits).Secures i (Acquired i config.connection m) (acquire config files defaults) m := by
  have hmine : ∀ k ∈ m.ours, k ∈ m.ours := fun _ hk => hk
  have hrefuse : ∀ (e : ConfigurationError) (m₁ : Moment), Stretch i m.ours (fun _ => 0) m m₁ →
      (order fits).Secures i (Acquired i config.connection m) (Script.done (.error e)) m₁ := by
    intro e m₁ hupto
    exact secures_done_on hupto hmine fun m₂ hupto₂ _ => hupto₂
  have hstart := Stretch.refl (i := i) hkeeps m.ours
  unfold acquire
  split
  next => exact hrefuse _ m hstart
  next name _ =>
    split
    next => exact hrefuse _ m hstart
    next properties _ =>
      unfold resolveDestination resolveFactory
      rw [bind_assoc]
      apply secures_lookup_on hstart
      intro found m₁ hupto
      cases found with
      | error cause => exact hrefuse _ m₁ hupto
      | ok entry =>
          cases entry with
          | connectionFactory => exact hrefuse _ m₁ hupto
          | destination d =>
              apply secures_lookup_on hupto
              intro found m₂ hupto₂
              cases found with
              | error cause => exact hrefuse _ m₂ hupto₂
              | ok entry =>
                  cases entry with
                  | destination d' => exact hrefuse _ m₂ hupto₂
                  | connectionFactory =>
                      refine (secures_openResources config.connection d hupto₂.keeps).mono ?_
                      intro x m₃ hx
                      cases x with
                      | error e =>
                          exact hupto₂.trans_same hx
                      | ok held =>
                          refine ⟨(hupto₂.trans_mine hx.1).weaken hmine fun kind => ?_, hx.2⟩
                          exact Int.zero_add _

/-- What starting comes to: it takes effect once in a life, well or badly. -/
inductive Started (i : Nat) (m : Moment) : Except ConfigurationError Unit → Moment → Prop
  | ready {m' : Moment} (held : Resources) (hstate : m.manager.state = .uninitialized)
      (hmanager : m'.manager = { state := .ready, held := some held })
      (hgained : ∀ kind, gained kind (m'.own i) = gained kind (m.own i) + oneOfEach kind) :
      Started i m (.ok ()) m'
  | failed {m' : Moment} (e : ConfigurationError) (hstate : m.manager.state = .uninitialized)
      (hmanager : m'.manager = { state := .failed })
      (hgained : ∀ kind, gained kind (m'.own i) = gained kind (m.own i)) :
      Started i m (.error e) m'
  | refused {m' : Moment} (hstate : m.manager.state ≠ .uninitialized)
      (hmanager : m'.manager = m.manager)
      (hgained : ∀ kind, gained kind (m'.own i) = gained kind (m.own i)) :
      Started i m (.error (.lifecycle m.manager.state)) m'

theorem keeps_kept {x : Manager} (h : m.broker.Keeps m.ours) :
    (m.kept i x).broker.Keeps (m.kept i x).ours :=
  h

theorem gained_kept (m : Moment) (i : Nat) (x : Manager) (kind : HandleKind) :
    gained kind ((m.kept i x).own i) = gained kind (m.own i) := by
  simp [gained]

/-- A manager that holds nothing is replaced by one that holds what the broker serves. -/
theorem secures_keep_done {α : Type} {x : α} {y : Manager} {Q : α → Moment → Prop}
    (hkeeps : m.broker.Keeps m.ours) (hy : y.Stands fits m.broker m.ours)
    (h : ∀ m', InOrder fits m' → m'.manager = y →
      (∀ kind, gained kind (m'.own i) = gained kind (m.own i)) → Q x m') :
    (order fits).Secures i Q (Work.keep y >>= fun _ => Script.done x) m := by
  refine secures_keep fun m₁ hdrift => ⟨trivial, secures_done fun m₂ hdrift₂ => ⟨trivial, ?_⟩⟩
  have hframe := hdrift.frame hkeeps
  have hframe₂ := hdrift₂.frame (keeps_kept (i := i) (x := y) hframe.keeps)
  have hy₁ : y.Stands fits m₁.broker m₁.ours := by
    apply hy.congr hframe.record
    intro k hk
    rw [hframe.ours]
    exact hk
  refine h m₂ ⟨hframe₂.keeps, ?_⟩ hframe₂.manager fun kind => ?_
  · rw [hframe₂.manager]
    apply hy₁.congr hframe₂.record
    intro k hk
    rw [hframe₂.ours]
    exact hk
  · rw [hframe₂.own, gained_kept, hframe.own]

theorem secures_keep_last {y : Manager} {Q : Unit → Moment → Prop}
    (hkeeps : m.broker.Keeps m.ours) (hy : y.Stands fits m.broker m.ours)
    (h : ∀ m', InOrder fits m' → m'.manager = y →
      (∀ kind, gained kind (m'.own i) = gained kind (m.own i)) → Q () m') :
    (order fits).Secures i Q (Work.keep y) m :=
  secures_keep_done hkeeps hy h

/-- A look at the manager finds it in order. -/
theorem secures_consult {α : Type} {f : Manager → Work α} {Q : α → Moment → Prop}
    (horder : InOrder fits m)
    (h : ∀ m', InOrder fits m' → m'.manager = m.manager →
      (∀ kind, gained kind (m'.own i) = gained kind (m.own i)) →
        (order fits).Secures i Q (f m.manager) m') :
    (order fits).Secures i Q (Work.manager >>= f) m := by
  refine secures_look fun m₁ hdrift => ⟨trivial, _, rfl, ?_⟩
  have hframe := hdrift.frame horder.keeps
  have horder₁ : InOrder fits m₁ := (stable_inOrder fits).drift hdrift horder
  have hidled := Stretch.idled horder₁.keeps i .other
  rw [hframe.manager]
  refine h _ (horder₁.stretch hidled) hframe.manager fun kind => (hidled.gained kind).trans ?_
  rw [hframe.own, Int.add_zero]

/-- The end of what leaves the manager in order. -/
theorem secures_done_in_order {α : Type} {x : α} {Q : α → Moment → Prop} (horder : InOrder fits m)
    (h : ∀ m', InOrder fits m' → m'.manager = m.manager →
      (∀ kind, gained kind (m'.own i) = gained kind (m.own i)) → Q x m') :
    (order fits).Secures i Q (Script.done x) m := by
  refine secures_done fun m₁ hdrift => ⟨trivial, ?_⟩
  have hframe := hdrift.frame horder.keeps
  refine h m₁ ((stable_inOrder fits).drift hdrift horder) hframe.manager fun kind => ?_
  rw [hframe.own]

theorem secures_start (config : Config) (files : Files) (defaults : Properties)
    (hfits : fits config.connection) (horder : InOrder fits m) :
    (order fits).Secures i (fun x m' => InOrder fits m' ∧ Started i m x m')
      (start config files defaults) m := by
  refine secures_consult horder fun m₁ horder₁ hmanager₁ hgained₁ => ?_
  split
  next hstate =>
    refine secures_done_in_order horder₁ fun m₂ horder₂ hmanager₂ hgained₂ => ⟨horder₂, ?_⟩
    refine .refused hstate (hmanager₂.trans hmanager₁) fun kind => ?_
    rw [hgained₂, hgained₁]
  next hstate =>
    have hstate := Decidable.not_not.mp hstate
    refine secures_keep fun m₂ hdrift₂ => ⟨trivial, ?_⟩
    have hframe₂ := hdrift₂.frame horder₁.keeps
    have hgained : ∀ kind x, gained kind ((m₂.kept i x).own i) = gained kind (m.own i) := by
      intro kind x
      rw [gained_kept, hframe₂.own, hgained₁]
    refine Secures.bind ((secures_acquire config files defaults
      (keeps_kept (i := i) hframe₂.keeps)).mono fun x m₃ hx => ?_)
    cases x with
    | ok held =>
        refine secures_keep_done hx.1.keeps (.ready config.connection held hfits hx.2)
          fun m₄ horder₄ hmanager hsame => ⟨horder₄, ?_⟩
        refine .ready held hstate hmanager fun kind => ?_
        rw [hsame, hx.1.gained, hgained]
    | error e =>
        have hnone : m.manager.held = none := horder.stands.held_eq_none (by simp [hstate])
        refine secures_keep_done hx.keeps ?_ fun m₄ horder₄ hmanager hsame => ⟨horder₄, ?_⟩
        · rw [hnone]
          exact .idle .failed (by simp)
        · refine .failed e hstate ?_ fun kind => ?_
          · rw [hmanager, hnone]
          · rw [hsame, hx.gained, hgained, Int.add_zero]

theorem secures_release {settings : ConnectionSettings} {held : Resources}
    (hkeeps : m.broker.Keeps m.ours)
    (hserves : m.broker.Serves m.ours settings held held.settled) :
    (order fits).Secures i (fun _ m' => Stretch i [] (fun kind => -oneOfEach kind) m m')
      (release held) m := by
  have hnil : ∀ k ∈ ([] : List AnyHandle), k ∈ m.ours := by simp
  have hstart := (Stretch.refl (i := i) hkeeps m.ours)
  have hmine : ∀ k ∈ m.ours, k ∈ m.ours := fun _ hk => hk
  apply secures_call_on hstart hmine
  intro m₁ reply b hupto hframe heffect
  have hsame : m₁.broker.SameHandles b := by
    cases reply with
    | error e => exact heffect.failed rfl
    | ok u =>
        cases heffect with
        | stopped => exact ⟨rfl, rfl, rfl, rfl, rfl⟩
  have hstopped := Stretch.called_same (i := i) hframe.keeps heffect hsame
  have hupto₁ := hupto.trans_same hstopped
  have hserves₁ := hserves.congr hupto₁.record hupto₁.mine
  have hupto₁ : Stretch i [] _ m _ := hupto₁.weaken hnil fun _ => rfl
  -- closing one of the three leaves the records of the others alone
  have hps : held.session.any ≠ held.producer.any := by simp [Handle.any]
  have hpc : held.connection.any ≠ held.producer.any := by simp [Handle.any]
  have hsc : held.connection.any ≠ held.session.any := by simp [Handle.any]
  refine secures_closing hupto₁ hnil rfl hserves₁.producer_mine (by simp) hserves₁.producer rfl
    fun m₂ hupto₂ hothers₂ hmine₂ => ?_
  refine secures_closing hupto₂ hnil rfl (hmine₂ _ hserves₁.session_mine) (by simp)
    ((hothers₂ _ hserves₁.session_mine hps).trans hserves₁.session) rfl
    fun m₃ hupto₃ hothers₃ hmine₃ => ?_
  have hconnection := (hothers₃ _ (hmine₂ _ hserves₁.connection_mine) hsc).trans
    ((hothers₂ _ hserves₁.connection_mine hpc).trans hserves₁.connection)
  refine secures_closing hupto₃ hnil rfl (hmine₃ _ (hmine₂ _ hserves₁.connection_mine)) (by simp)
    hconnection rfl fun m₄ hupto₄ _ _ => ?_
  apply secures_done_on hupto₄ hnil
  intro m₅ hupto₅ _
  apply hupto₅.weaken (fun _ hk => hk)
  intro kind
  simp only [Handle.any, oneOfEach]
  ring

/-- What closing comes to: the manager is closed, and what it held is given back. -/
structure Closed (i : Nat) (m m' : Moment) : Prop where
  state : m'.manager.state = .closed
  gained : ∀ kind, gained kind (m'.own i) = gained kind (m.own i) -
    if m.manager.state = .ready then oneOfEach kind else 0

theorem secures_close (horder : InOrder fits m) :
    (order fits).Secures i (fun _ m' => InOrder fits m' ∧ Closed i m m') close m := by
  refine secures_consult horder fun m₁ horder₁ hmanager₁ hgained₁ => ?_
  split
  next hstate =>
    -- a manager in order is never in the middle of closing, so it was closed before
    have hclosed : m.manager.state = .closed := by
      apply hstate.resolve_right
      have hstands := horder.stands
      generalize m.manager = x at hstands
      cases hstands with
      | idle state h => rcases h with rfl | rfl | rfl <;> simp
      | ready => simp
    refine secures_done_in_order horder₁ fun m₂ horder₂ hmanager₂ hgained₂ => ⟨horder₂, ?_, ?_⟩
    · rw [hmanager₂, hmanager₁]
      exact hclosed
    · intro kind
      rw [hgained₂, hgained₁, hclosed]
      simp
  next hstate =>
    refine secures_keep fun m₂ hdrift₂ => ⟨trivial, ?_⟩
    have hframe₂ := hdrift₂.frame horder₁.keeps
    have hgained : ∀ kind, gained kind ((m₂.kept i { state := .closing }).own i) =
        gained kind (m.own i) := by
      intro kind
      rw [gained_kept, hframe₂.own, hgained₁]
    have hstands : m.manager.Stands fits m₂.broker m₂.ours := by
      rw [← hmanager₁, ← hframe₂.manager]
      exact ((stable_inOrder fits).drift hdrift₂ horder₁).stands
    have hkeeps : (m₂.kept i { state := .closing }).broker.Keeps
        (m₂.kept i { state := .closing }).ours := keeps_kept hframe₂.keeps
    generalize hmanager : m.manager = x at hstands
    cases hstands with
    | idle state h =>
        refine secures_keep_last hkeeps (.idle .closed (by simp))
          fun m₃ horder₃ hmanager₃ hsame => ⟨horder₃, ?_, ?_⟩
        · rw [hmanager₃]
        · intro kind
          have hne : m.manager.state ≠ .ready := by
            rw [hmanager]
            rcases h with rfl | rfl | rfl <;> simp
          rw [hsame, hgained, if_neg hne]
          simp
    | ready settings held hfits hserves =>
        refine Secures.bind ((secures_release hkeeps hserves).mono fun _ m₃ hreleased => ?_)
        refine secures_keep_last hreleased.keeps (.idle .closed (by simp))
          fun m₄ horder₄ hmanager₄ hsame => ⟨horder₄, ?_, ?_⟩
        · rw [hmanager₄]
        · intro kind
          have hready : m.manager.state = .ready := by rw [hmanager]
          rw [hsame, hreleased.gained, hgained, if_pos hready]
          ring

end Manager

end Sluice
