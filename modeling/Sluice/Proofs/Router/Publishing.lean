import Sluice.Proofs.Router.Gate

/-! # Publishing at a gate

The walk through one publishing: the wait for the destination, the delivery, and the roll back of
what could not be committed. At every request the manager is in order as far as the publishing has
not come to its session, and the gate is kept.
-/

namespace Sluice

/-- The terms of a router: its manager is in order, and its gate is kept. -/
def Gate.terms {admission : AdmissionConfig} (G : Gate admission)
    (fits : ConnectionSettings → Prop) : Terms :=
  (Terms.order fits).both G.toTerms

/-- Whatever goes well unless a fault is armed fails only by that fault. -/
theorem Broker.injected_of_attempt {α : Type} {b b' : Broker} {point : FaultPoint}
    {act : Broker → Except BrokerError α × Broker} {cause : BrokerError}
    (h : b.attempt point act = (.error cause, b')) (hact : (act b).1.isOk = true) :
    cause.injected ≠ [] := by
  unfold Broker.attempt at h
  split at h
  next =>
    obtain rfl := Except.error.inj (congrArg Prod.fst h)
    simp [BrokerError.injected]
  next =>
    rw [h] at hact
    cases hact

namespace Gate

open Terms

variable {admission : AdmissionConfig} {G : Gate admission} {fits : ConnectionSettings → Prop}
variable {i : Nat} {settings : ConnectionSettings} {held : Resources} {m : Moment}
variable {pending : Option (List Parcel)} {browser : Option (Handle .browser)}
variable {through : Nat} {spent : List FaultPoint} {sent : List Parcel}
variable {α : Type} {Q : α → Moment → Prop} {P : Moment → Prop}

theorem inOrder_of_ongoing
    (h : Ongoing i settings held held.settled browser through spent sent m)
    (hfits : fits settings) : InOrder fits m := by
  refine ⟨h.keeps, ?_⟩
  rw [h.manager]
  exact .ready settings held hfits h.serves

/-- Whoever looks is let through only by a station that was shut down. -/
theorem isShutDown_of_look {r : Request} {a : r.Answer} (hlook : m.look r = some a)
    (hthrough : (r.deed a).letsThrough = true) : m.signal.isShutDown = true := by
  cases r with
  | isShutDown =>
      obtain rfl := Option.some.inj hlook
      exact hthrough
  | clock => simp [Request.deed, Deed.letsThrough] at hthrough
  | enlist => simp [Request.deed, Deed.letsThrough] at hthrough
  | manager => simp [Request.deed, Deed.letsThrough] at hthrough
  | _ => simp [Moment.look] at hlook

section Steps

variable (hP : Quiet P) (hcalm : ∀ m, P m → G.calm m)

include hP in
theorem lasts_during : ∀ m m', Shift i m m' →
    Ongoing i settings held pending browser through spent sent m ∧ P m →
      Ongoing i settings held pending browser through spent sent m' ∧ P m' :=
  fun m m' hshift hA => ⟨hA.1.shift hshift, hP.stable i m m' hshift hA.2⟩

include hcalm in
theorem safe_during : ∀ m, Ongoing i settings held pending browser through spent sent m ∧ P m →
    (G.terms fits).safe m :=
  fun m hA => ⟨trivial, G.safe_of_calm m (hcalm m hA.2)⟩

variable (h : Ongoing i settings held pending browser through spent sent m) (hm : P m)

include hP hcalm h hm

theorem secures_call_during {c : Call} {f : c.Reply → Work α}
    (hnext : ∀ m reply b, Ongoing i settings held pending browser through spent sent m → P m →
      m.broker.perform m.now c = (reply, b) →
        (G.terms fits).Secures i Q (f reply) (m.called i c reply b)) :
    (G.terms fits).Secures i Q (Work.call c >>= f) m := by
  apply secures_call_at (lasts_during hP) (safe_during hcalm) ⟨h, hm⟩
  intro m reply b hA hperform
  exact hnext m reply b hA.1 hA.2 hperform

theorem secures_look_during {r : Request} {f : r.Answer → Work α}
    (hwaits : ∀ a, (r.deed a).waits = false)
    (hnext : ∀ m, P m → ∃ a, m.look r = some a ∧
      (Ongoing i settings held pending browser (through + (r.deed a).letsThrough.toNat) spent sent
          (m.idled i (r.deed a)) →
        ((r.deed a).letsThrough = false → P (m.idled i (r.deed a))) →
        (∀ name, through = 0 → (r.deed a).letsThrough = true →
          G.permit name (m.idled i (r.deed a))) →
          (G.terms fits).Secures i Q (f a) (m.idled i (r.deed a)))) :
    (G.terms fits).Secures i Q (Work.ask r >>= f) m := by
  apply secures_look_at (lasts_during hP) (safe_during hcalm) ⟨h, hm⟩
  intro m hA
  obtain ⟨a, hlook, hnext⟩ := hnext m hA.2
  refine ⟨a, hlook, hnext (hA.1.idled _ ?_) (fun hd => hP.idled m i _ hd hA.2) ?_⟩
  · simp [hwaits]
  · intro name hzero hthrough
    exact G.permit_ended name m i _ hthrough (hA.1.passes.trans hzero)
      (.inl (isShutDown_of_look hlook hthrough)) (hcalm m hA.2)

theorem secures_done_during {x : α}
    (hpost : ∀ m, Ongoing i settings held pending browser through spent sent m → P m → Q x m) :
    (G.terms fits).Secures i Q (Script.done x) m := by
  apply secures_done_at (lasts_during hP) (safe_during hcalm) ⟨h, hm⟩
  intro m hA
  exact hpost m hA.1 hA.2

end Steps

/-! ### Waiting -/

/-- What waiting for a destination comes to. -/
def Awaited (G : Gate admission) (i : Nat) (settings : ConnectionSettings) (held : Resources)
    (browser : Option (Handle .browser)) : Except AdmissionError Admission → Moment → Prop
  | .ok a, m =>
      Ongoing i settings held held.settled browser (if a = .interrupted then 1 else 0) [] [] m ∧
        G.permit held.destination.name m ∧ a.Shown admission held.destination (m.own i)
  | .error e, m =>
      Ongoing i settings held held.settled browser 0 e.injected [] m ∧ G.calm m ∧
        (e.isLate = true → ∃ e ∈ m.own i, e.deed.waits) ∧
        ∀ cause, e = .inspection cause → cause.injected ≠ []

theorem secures_through {a : Admission}
    (h : Ongoing i settings held held.settled browser (if a = .interrupted then 1 else 0) [] [] m)
    (hpermit : G.permit held.destination.name m)
    (hshown : a.Shown admission held.destination (m.own i)) :
    (G.terms fits).Secures i (G.Awaited i settings held browser) (Script.done (.ok a)) m := by
  have hP := (G.quiet_permit held.destination.name).and (.shown admission held.destination a i)
  apply secures_done_during hP (fun m hm => G.calm_of_permit _ m hm.1) h ⟨hpermit, hshown⟩
  intro m h hm
  exact ⟨h, hm⟩

theorem secures_inspection {cause : BrokerError}
    (h : Ongoing i settings held held.settled browser 0 cause.injected [] m) (hcalm : G.calm m)
    (hinjected : cause.injected ≠ []) :
    (G.terms fits).Secures i (G.Awaited i settings held browser)
      (Script.done (.error (.inspection cause))) m := by
  apply secures_done_during G.quiet_calm (fun _ hm => hm) h hcalm
  intro m h hm
  refine ⟨h, hm, by simp [AdmissionError.isLate], ?_⟩
  rintro _ ⟨⟩
  exact hinjected

/-- The browser of a publishing looks at its destination. -/
theorem openBrowser?_of_ongoing {w : Handle .browser}
    (h : Ongoing i settings held pending (some w) through spent sent m) :
    m.broker.openBrowser? w = some { destination := held.destination.name } :=
  Broker.openBrowser?_eq_some.mpr ⟨Broker.record?_browser.mp (h.browsing w rfl).2, rfl⟩

/-- A look at the depth of an open browser fails only by a fault. -/
theorem injected_of_browse {w : Handle .browser}
    (h : Ongoing i settings held pending (some w) through spent sent m) {cause : BrokerError}
    {b : Broker} (hperform : m.broker.perform m.now (.browse w) = (.error cause, b)) :
    cause.injected ≠ [] := by
  change m.broker.browse m.now w = (.error cause, b) at hperform
  rw [Broker.browse, openBrowser?_of_ongoing h] at hperform
  exact Broker.injected_of_attempt hperform rfl

theorem secures_browse {w : Handle .browser} {f : Except BrokerError Nat → Work α}
    (h : Ongoing i settings held held.settled (some w) 0 [] [] m) (hcalm : G.calm m)
    (hinspected : ∃ e ∈ m.own i, e.Finds held.destination .queue)
    (hfailed : ∀ m cause, Ongoing i settings held held.settled (some w) 0 cause.injected [] m →
      G.calm m → cause.injected ≠ [] → (G.terms fits).Secures i Q (f (.error cause)) m)
    (hlooked : ∀ m depth, Ongoing i settings held held.settled (some w) 0 [] [] m → G.calm m →
      (depth < admission.threshold → G.permit held.destination.name m) →
      (∃ e ∈ m.own i, e.Finds held.destination .queue) → (∃ e ∈ m.own i, e.deed.waits) →
        (G.terms fits).Secures i Q (f (.ok depth)) m) :
    (G.terms fits).Secures i Q (Work.call (.browse w) >>= f) m := by
  have hP := G.quiet_calm.and (.happened i fun e => e.Finds held.destination .queue)
  apply secures_call_during hP (fun _ hm => hm.1) h ⟨hcalm, hinspected⟩
  rintro m reply b h ⟨hcalm, hinspected⟩ hperform
  have hopen := openBrowser?_of_ongoing h
  have hwaits : ∀ w', Call.browse w = .browse w' →
      (∀ r, m.broker.openBrowser? w' = some r → r.destination = held.destination.name) ∧
        ∃ e ∈ m.own i, e.Finds held.destination .queue := by
    intro w' heq
    obtain rfl := Call.browse.inj heq
    refine ⟨fun r hr => ?_, hinspected⟩
    rw [hopen] at hr
    rw [← Option.some.inj hr]
  have hlater := hP.called m i _ reply b hperform rfl ⟨hcalm, hinspected⟩
  have heffect := Broker.effect_of_perform hperform
  cases reply with
  | error cause =>
      exact hfailed _ cause (h.called_failed hperform rfl hwaits) hlater.1
        (injected_of_browse h hperform)
  | ok depth =>
      have hsame : m.broker.SameHandles b := by
        cases heffect with
        | browsed => exact ⟨rfl, rfl, rfl, rfl, rfl⟩
      have hdepth : depth = (m.broker.depth m.now held.destination.name).1 := by
        cases heffect with
        | browsed _ hopen' =>
            rw [hopen] at hopen'
            rw [← Option.some.inj hopen']
      refine hlooked _ depth (h.called_same hperform (by simp [Broker.delivered]) hwaits hsame)
        hlater.1 ?_ hlater.2 ?_
      · intro hbelow
        have hpermit := G.permit_below _ m (hdepth ▸ hbelow) hcalm
        exact (G.quiet_permit _).called m i _ _ b hperform rfl hpermit
      · rw [Moment.own_called]
        exact ⟨_, List.mem_append_right _ List.mem_cons_self, rfl⟩

theorem secures_admitted {w : Handle .browser} {start : Nat}
    (h : Ongoing i settings held held.settled (some w) 0 [] [] m)
    (hpermit : G.permit held.destination.name m) (hwaited : ∃ e ∈ m.own i, e.deed.waits) :
    (G.terms fits).Secures i (G.Awaited i settings held (some w))
      (Work.clock >>= fun now => Script.done (.ok (.admitted (now - start)))) m := by
  have hP := (G.quiet_permit held.destination.name).and (.happened i fun e => e.deed.waits)
  refine secures_look_during hP (fun m hm => G.calm_of_permit _ m hm.1) h ⟨hpermit, hwaited⟩
    (fun _ => rfl) fun m hm => ⟨m.now, rfl, fun h hm _ => ?_⟩
  exact secures_through h (hm rfl).1 (hm rfl).2

/-- As long as time is left a depth is looked at again and again. -/
theorem secures_watch (hfits : fits settings) {w : Handle .browser} {ticket start : Nat}
    (hticket : G.ticket ticket) (rests depth : Nat)
    (h : Ongoing i settings held held.settled (some w) 0 [] [] m)
    (hcalm : G.calm m) (hpermit : depth < admission.threshold → G.permit held.destination.name m)
    (hinspected : ∃ e ∈ m.own i, e.Finds held.destination .queue)
    (hwaited : ∃ e ∈ m.own i, e.deed.waits) :
    (G.terms fits).Secures i (G.Awaited i settings held (some w))
      (admission.watch w ticket start rests depth) m := by
  have hP := G.quiet_calm.and ((Quiet.happened i fun e => e.Finds held.destination .queue).and
    (.happened i fun e => e.deed.waits))
  have hlate : ∀ m e, e.isLate = true →
      Ongoing i settings held held.settled (some w) 0 [] [] m →
      (G.calm m ∧ (∃ e ∈ m.own i, e.Finds held.destination .queue) ∧ ∃ e ∈ m.own i, e.deed.waits) →
      (G.terms fits).Secures i (G.Awaited i settings held (some w)) (Script.done (.error e)) m := by
    intro m e he h hm
    apply secures_done_during hP (fun _ hm => hm.1) h hm
    intro m h hm
    cases e with
    | inspection cause => cases he
    | timedOut depth | stalled depth => exact ⟨h, hm.1, fun _ => hm.2.2, by simp⟩
  -- on the number of rests; a permit for the depth that was seen last is carried along
  induction rests generalizing depth m with
  | zero =>
      unfold AdmissionConfig.watch
      split
      next hbelow => exact secures_admitted h (hpermit hbelow) hwaited
      next =>
        refine secures_look_during hP (fun _ hm => hm.1) h ⟨hcalm, hinspected, hwaited⟩
          (fun _ => rfl) fun m hm => ⟨m.now, rfl, fun h hm _ => ?_⟩
        split
        next => exact hlate _ _ rfl h (hm rfl)
        next => exact hlate _ _ rfl h (hm rfl)
  | succ rests ih =>
      unfold AdmissionConfig.watch
      split
      next hbelow => exact secures_admitted h (hpermit hbelow) hwaited
      next =>
        refine secures_look_during hP (fun _ hm => hm.1) h ⟨hcalm, hinspected, hwaited⟩
          (fun _ => rfl) fun m hm => ⟨m.now, rfl, fun h hm _ => ?_⟩
        split
        next =>
          apply secures_rest_at (lasts_during hP) (safe_during fun _ hm => hm.1) ⟨h, hm rfl⟩
          rintro m ⟨h, hm⟩
          refine ⟨⟨inOrder_of_ongoing h hfits, hm.1⟩,
            ⟨trivial, G.resting_inspected _ held (h.found hm.2.1)⟩, fun early hearly => ?_⟩
          have hrested := h.idled (.rested early) fun _ => hm.2.1
          -- a rest that is ended early lets the task through, any other leads to another look
          cases early with
          | true =>
              exact secures_through hrested (G.permit_ended _ m i (.rested true) rfl h.passes
                (.inr ⟨ticket, hticket, hearly rfl⟩) hm.1) hrested.passed
          | false =>
              have hlater := hP.idled m i (.rested false) rfl hm
              refine secures_browse hrested hlater.1 hlater.2.1 ?_ ?_
              · intro m cause h hcalm hinjected
                exact secures_inspection h hcalm hinjected
              · intro m depth h hcalm hpermit hinspected hwaited
                exact ih depth h hcalm hpermit hinspected hwaited
        next => exact hlate _ _ rfl h (hm rfl)

theorem secures_awaitBelowMark (hfits : fits settings) {w : Handle .browser}
    (h : Ongoing i settings held held.settled (some w) 0 [] [] m) (hcalm : G.calm m)
    (hinspected : ∃ e ∈ m.own i, e.Finds held.destination .queue) :
    (G.terms fits).Secures i (G.Awaited i settings held (some w))
      (admission.awaitBelowMark w) m := by
  have hP := G.quiet_calm.and (.happened i fun e => e.Finds held.destination .queue)
  refine secures_look_during hP (fun _ hm => hm.1) h ⟨hcalm, hinspected⟩ (fun _ => rfl)
    fun m hm => ⟨m.signal.rounds, rfl, fun h hlater _ => ?_⟩
  -- the ticket is drawn before the signal is looked at, so no interruption is missed
  have hticket : G.ticket m.signal.rounds := G.ticket_of_calm m hm.1
  generalize m.signal.rounds = ticket at *
  refine secures_look_during hP (fun _ hm => hm.1) h (hlater rfl) (fun _ => rfl)
    fun m hm => ⟨m.signal.isShutDown, rfl, fun h hm hthrough => ?_⟩
  cases hdown : m.signal.isShutDown with
  | true =>
      rw [hdown] at h hthrough
      exact secures_through h (hthrough _ rfl rfl) h.passed
  | false =>
      rw [hdown] at h hm
      refine secures_look_during hP (fun _ hm => hm.1) h (hm rfl) (fun _ => rfl)
        fun m hm => ⟨m.now, rfl, fun h hm _ => ?_⟩
      refine secures_browse h (hm rfl).1 (hm rfl).2 ?_ ?_
      · intro m cause h hcalm hinjected
        exact secures_inspection h hcalm hinjected
      · intro m depth h hcalm hpermit hinspected hwaited
        exact secures_watch hfits hticket _ depth h hcalm hpermit hinspected hwaited

/-- Closing the browser of a publishing. -/
theorem closed_of_ongoing {w : Handle .browser}
    (h : Ongoing i settings held pending (some w) through spent sent m)
    {reply : (Call.closeBrowser w).Reply} {b : Broker}
    (hperform : m.broker.perform m.now (.closeBrowser w) = (reply, b)) :
    Ongoing i settings held pending none through spent sent
      (m.called i (.closeBrowser w) reply b) := by
  have heffect := Broker.effect_of_perform hperform
  obtain ⟨hmine, hrecord⟩ := h.browsing w rfl
  have hcount := heffect.closing rfl hrecord rfl
  have hpos := h.keeps.counted.pos_of_open hrecord rfl
  have hspent : Broker.spent reply = [] := by
    cases heffect with
    | refused _ _ hclosing => simp [Call.isClosing] at hclosing
    | faulted _ _ hclosing => simp [Call.isClosing] at hclosing
    | browserGone => rfl
    | browserClosed => rfl
  have hcalled := h.called pending none hperform (by simp [Broker.delivered]) (by simp) ?_
    (by simp) ?_
  · rw [hspent] at hcalled
    simpa [Broker.delivered] using hcalled
  · refine h.serves.beside_browsers (fun k hk hkind => ?_) fun k hk => List.mem_append_left _ hk
    refine heffect.booked.record? (h.keeps.issued k hk) ?_
    rw [Call.touched_of_closes rfl, List.mem_singleton]
    intro heq
    exact hkind (congrArg AnyHandle.kind heq)
  · intro kind
    rw [hcount, Broker.count_update]
    by_cases hkind : kind = .browser
    · subst hkind
      simp only [Handle.any] at hpos
      simp [Handle.any, oneOf]
      omega
    · simp [Handle.any, oneOf, hkind]

/-- Opening the browser of a publishing. -/
theorem opened_of_ongoing {w : Handle .browser}
    (h : Ongoing i settings held pending none through [] [] m) {b : Broker}
    (hperform : m.broker.perform m.now (.createBrowser held.session held.destination) =
      (.ok (some w), b)) :
    Ongoing i settings held pending (some w) through [] []
        (m.called i (.createBrowser held.session held.destination) (.ok (some w)) b) ∧
      m.broker.kindOf held.destination = .queue := by
  have heffect := Broker.effect_of_perform hperform
  obtain ⟨hopened, hmine, -⟩ := Stretch.called_opening (i := i) (h := w.any) h.keeps heffect rfl
  have hrecord : b.record? w.any = some (.browser { destination := held.destination.name }) := by
    cases heffect with
    | browserOpened => simp [Broker.record?_browser, Broker.countOpened]
  refine ⟨?_, ?_⟩
  · refine h.called pending (some w) hperform (by simp [Broker.delivered]) (by simp) ?_ ?_ ?_
    · exact h.serves.congr hopened.record hopened.mine
    · intro w' heq
      obtain rfl := Option.some.inj heq
      exact ⟨hmine, hrecord⟩
    · intro kind
      cases heffect with
      | browserOpened =>
          simp only [Broker.countOpened, Broker.count_update, oneOf]
          split <;> simp
  · cases heffect with
    | browserOpened _ _ _ hkind => exact hkind

theorem sessionOpen_of_ongoing (h : Ongoing i settings held pending browser through spent sent m) :
    m.broker.sessionOpen held.session = true := by
  rw [Broker.sessionOpen, Broker.record?_session.mp h.serves.session]
  rfl

/-- A browser is refused to an open session only by a fault. -/
theorem injected_of_createBrowser
    (h : Ongoing i settings held pending browser through spent sent m) {cause : BrokerError}
    {b : Broker} (hperform :
      m.broker.perform m.now (.createBrowser held.session held.destination) = (.error cause, b)) :
    cause.injected ≠ [] := by
  change m.broker.createBrowser held.session held.destination = (.error cause, b) at hperform
  rw [Broker.createBrowser, if_pos (sessionOpen_of_ongoing h)] at hperform
  refine Broker.injected_of_attempt hperform ?_
  split <;> rfl

theorem secures_awaitCapacity (hfits : fits settings)
    (h : Ongoing i settings held held.settled none 0 [] [] m) (hcalm : G.calm m) :
    (G.terms fits).Secures i (G.Awaited i settings held none)
      (admission.awaitCapacity held.session held.destination) m := by
  unfold AdmissionConfig.awaitCapacity
  split
  next hdisabled =>
    have hoff : admission.isEnabled = false := by simpa using hdisabled
    exact secures_through h (G.permit_disabled hoff _ m hcalm) hoff
  next =>
    refine secures_look_during G.quiet_calm (fun _ hm => hm) h hcalm (fun _ => rfl)
      fun m hm => ⟨m.signal.isShutDown, rfl, fun h hm hthrough => ?_⟩
    cases hdown : m.signal.isShutDown with
    | true =>
        rw [hdown] at h hthrough
        exact secures_through h (hthrough _ rfl rfl) h.passed
    | false =>
        rw [hdown] at h hm
        refine secures_call_during G.quiet_calm (fun _ hm => hm) h (hm rfl)
          fun m reply b h hm hperform => ?_
        have hcalm := G.quiet_calm.called m i _ reply b hperform rfl hm
        cases reply with
        | error cause =>
            exact secures_inspection (h.called_failed hperform rfl (by simp)) hcalm
              (injected_of_createBrowser h hperform)
        | ok found =>
            cases found with
            | none =>
                -- a destination that offers no browser is a topic, and topics take any number
                obtain ⟨hkind, hsame⟩ : m.broker.kindOf held.destination = .topic ∧
                    m.broker.SameHandles b := by
                  cases Broker.effect_of_perform hperform with
                  | notInspectable _ _ _ hkind => exact ⟨hkind, rfl, rfl, rfl, rfl, rfl⟩
                have hpermit := G.permit_topic _ m hkind hm
                have hcalled := h.called_same hperform (by simp [Broker.delivered]) (by simp) hsame
                refine secures_through hcalled
                  ((G.quiet_permit _).called m i _ _ b hperform rfl hpermit) ?_
                rw [Moment.own_called]
                exact ⟨_, List.mem_append_right _ List.mem_cons_self, held.session, rfl, hkind⟩
            | some w =>
                obtain ⟨hopened, hkind⟩ := opened_of_ongoing h hperform
                refine Secures.bind ((secures_awaitBelowMark hfits hopened hcalm ?_).mono ?_)
                · rw [Moment.own_called]
                  exact ⟨_, List.mem_append_right _ List.mem_cons_self, held.session, rfl, hkind⟩
                · intro x m hx
                  cases x with
                  | ok a =>
                      have hP := (G.quiet_permit held.destination.name).and
                        (.shown admission held.destination a i)
                      refine secures_call_during hP (fun m hm => G.calm_of_permit _ m hm.1) hx.1
                        hx.2 fun m reply b h hm hperform => ?_
                      have hlater := hP.called m i _ reply b hperform rfl hm
                      exact secures_through (closed_of_ongoing h hperform) hlater.1 hlater.2
                  | error e =>
                      have hP := G.quiet_calm.and (Quiet.imp (e.isLate = true)
                        (.happened i fun e => e.deed.waits))
                      obtain ⟨h, hcalm, hwaited, hinjected⟩ := hx
                      refine secures_call_during hP (fun _ hm => hm.1) h ⟨hcalm, hwaited⟩
                        fun m reply b h hm hperform => ?_
                      exact secures_done_during hP (fun _ hm => hm.1) (closed_of_ongoing h hperform)
                        (hP.called m i _ reply b hperform rfl hm)
                        fun m h hm => ⟨h, hm.1, hm.2, hinjected⟩

/-! ### Delivery -/

theorem openProducer?_of_ongoing
    (h : Ongoing i settings held pending browser through spent sent m) :
    m.broker.openProducer? held.producer = some {
      session := held.session
      destination := held.destination.name
      settings := settings.delivery } :=
  Broker.openProducer?_eq_some.mpr ⟨Broker.record?_producer.mp h.serves.producer, rfl⟩

theorem pending_of_ongoing (h : Ongoing i settings held pending browser through spent sent m) :
    m.broker.pending held.session = pending := by
  rw [Broker.pending, Broker.record?_session.mp h.serves.session]
  rfl

/-- An open producer fails to send only by a fault. -/
theorem injected_of_send (h : Ongoing i settings held pending browser through spent sent m)
    {x : Message} {cause : BrokerError} {b : Broker}
    (hperform : m.broker.perform m.now (.send held.producer x) = (.error cause, b)) :
    cause.injected ≠ [] := by
  change m.broker.send m.now held.producer x = (.error cause, b) at hperform
  rw [Broker.send, openProducer?_of_ongoing h] at hperform
  refine Broker.injected_of_attempt hperform ?_
  dsimp only
  split <;> rfl

/-- An open session fails to commit only by a fault. -/
theorem injected_of_commit {parcels : List Parcel}
    (h : Ongoing i settings held (some parcels) browser through spent sent m) {cause : BrokerError}
    {b : Broker} (hperform : m.broker.perform m.now (.commit held.session) = (.error cause, b)) :
    cause.injected ≠ [] := by
  change m.broker.commit held.session = (.error cause, b) at hperform
  rw [Broker.commit, if_pos (sessionOpen_of_ongoing h), pending_of_ongoing h] at hperform
  exact Broker.injected_of_attempt hperform rfl

/-- The task made a call after which its session has put something else aside. -/
theorem setPending_of_ongoing (parcels : List Parcel)
    (h : Ongoing i settings held pending none through spent sent m) {c : Call} {reply : c.Reply}
    {b : Broker} (hperform : m.broker.perform m.now c = (reply, b))
    (hopened : c.opened reply = []) (hbrowse : ∀ w, c ≠ .browse w)
    (hsent : ∀ p ∈ m.broker.delivered m.now (.call c), p.destination = held.destination.name)
    (hconnections : b.connections = m.broker.connections)
    (hsessions : b.sessions = (m.broker.setPending held.session parcels).sessions)
    (hproducers : b.producers = m.broker.producers)
    (hcount : b.openHandles = m.broker.openHandles) :
    Ongoing i settings held (some parcels) none through (spent ++ Broker.spent reply)
      (sent ++ m.broker.delivered m.now (.call c)) (m.called i c reply b) := by
  refine h.called (some parcels) none hperform hsent (fun w hc => absurd hc (hbrowse w)) ?_
    (by simp) (by simp [hcount])
  rw [hopened, List.append_nil]
  refine ⟨h.serves.connection_mine, h.serves.session_mine, h.serves.producer_mine, ?_, ?_, ?_,
    h.serves.transacted⟩
  · rw [Broker.record?_connection, hconnections]
    exact Broker.record?_connection.mp h.serves.connection
  · have hold := Broker.record?_session.mp h.serves.session
    rw [Broker.record?_session, hsessions]
    simp [Broker.setPending, Broker.modifySession, hold]
  · rw [Broker.record?_producer, hproducers]
    exact Broker.record?_producer.mp h.serves.producer

/-- What a session of a transaction has put aside is discarded. -/
theorem rolledBack_of_ongoing {parcels : List Parcel}
    (h : Ongoing i settings held (some parcels) none through spent sent m)
    {reply : (Call.rollback held.session).Reply} {b : Broker}
    (hperform : m.broker.perform m.now (.rollback held.session) = (reply, b)) :
    Ongoing i settings held (some []) none through spent sent
      (m.called i (.rollback held.session) reply b) := by
  have hpending := pending_of_ongoing h
  have hopen := sessionOpen_of_ongoing h
  have hreply : m.broker.perform m.now (.rollback held.session) =
      (.ok (), m.broker.setPending held.session []) := by
    simp only [Broker.perform, Broker.rollback, hopen, hpending, if_true]
    rfl
  rw [hperform, Prod.mk.injEq] at hreply
  obtain ⟨rfl, rfl⟩ := hreply
  have hcalled := setPending_of_ongoing [] h hperform rfl (by simp) (by simp [Broker.delivered]) rfl
    rfl rfl rfl
  simpa [Broker.spent, Broker.delivered] using hcalled

/-- A message was handed over: it waits at the destination, or it is put aside. -/
theorem sent_of_ongoing {x : Message}
    (h : Ongoing i settings held held.settled none through [] [] m)
    (hpermit : G.permit held.destination.name m) {b : Broker}
    (hperform : m.broker.perform m.now (.send held.producer x) = (.ok (), b)) :
    ∃ p, p.destination = held.destination.name ∧ p.message = x.stamp settings.delivery ∧
      if held.transacted then
        Ongoing i settings held (some [p]) none through [] []
            (m.called i (.send held.producer x) (.ok ()) b) ∧
          G.permit held.destination.name (m.called i (.send held.producer x) (.ok ()) b)
      else
        Ongoing i settings held held.settled none through [] [p]
            (m.called i (.send held.producer x) (.ok ()) b) ∧
          G.calm (m.called i (.send held.producer x) (.ok ()) b) := by
  have hproducer := openProducer?_of_ongoing h
  have hpending := pending_of_ongoing h
  have hreply : (m.broker.send m.now held.producer x).1 = .ok () := congrArg Prod.fst hperform
  refine ⟨m.broker.pack m.now held.destination.name (x.stamp settings.delivery), rfl, rfl, ?_⟩
  cases htransacted : held.transacted with
  | true =>
      have hsettled : held.settled = some [] := by simp [Resources.settled, htransacted]
      -- in a transaction the message is put aside, and the permit is not used yet
      rw [hsettled] at h hpending
      have hnone : m.broker.delivered m.now (.call (.send held.producer x)) = [] := by
        simp [Broker.delivered, hreply, hproducer, hpending]
      simp only [if_true]
      refine ⟨?_, (G.quiet_permit _).called m i _ _ b hperform hnone hpermit⟩
      obtain rfl := Broker.aside_of_send hperform hproducer hpending
      have hcalled := setPending_of_ongoing
        [m.broker.pack m.now held.destination.name (x.stamp settings.delivery)] h hperform rfl
        (by simp) (by simp [hnone]) rfl rfl rfl rfl
      simpa [Broker.spent, hnone] using hcalled
  | false =>
      have hsettled : held.settled = none := by simp [Resources.settled, htransacted]
      rw [hsettled] at h hpending
      have hone : m.broker.delivered m.now (.call (.send held.producer x)) =
          [m.broker.pack m.now held.destination.name (x.stamp settings.delivery)] := by
        simp [Broker.delivered, hreply, hproducer, hpending]
      simp only [hsettled]
      refine ⟨?_, G.calm_sent _ m i _ _ b _ hperform hone rfl hpermit⟩
      have hsame : m.broker.SameHandles b := by
        rw [Broker.deliver_of_send hperform hproducer hpending]
        exact ⟨rfl, rfl, rfl, rfl, rfl⟩
      have hcalled := h.called_same hperform (by simp [hone, Broker.pack]) (by simp) hsame
      simpa [Broker.spent, hone] using hcalled

/-- What a transaction has put aside was delivered. -/
theorem committed_of_ongoing {p : Parcel} (hdestination : p.destination = held.destination.name)
    (h : Ongoing i settings held (some [p]) none through [] [] m)
    (hpermit : G.permit held.destination.name m) {b : Broker}
    (hperform : m.broker.perform m.now (.commit held.session) = (.ok (), b)) :
    Ongoing i settings held (some []) none through [] [p]
        (m.called i (.commit held.session) (.ok ()) b) ∧
      G.calm (m.called i (.commit held.session) (.ok ()) b) := by
  have hpending := pending_of_ongoing h
  have hreply : (m.broker.commit held.session).1 = .ok () := congrArg Prod.fst hperform
  have hone : m.broker.delivered m.now (.call (.commit held.session)) = [p] := by
    simp [Broker.delivered, hreply, hpending]
  refine ⟨?_, G.calm_sent _ m i _ _ b p hperform hone hdestination hpermit⟩
  cases Broker.effect_of_perform hperform with
  | @committed _ parcels hopen hfound =>
      have hsame := (m.broker.setPending held.session []).sameHandles_deliverAll parcels
      have hcalled := setPending_of_ongoing [] h hperform rfl (by simp)
        (by simp [hone, hdestination]) hsame.connections hsame.sessions hsame.producers
        hsame.openHandles
      simpa [Broker.spent, hone] using hcalled

/-- What delivering a message comes to. -/
def Delivered (G : Gate admission) (i : Nat) (settings : ConnectionSettings) (held : Resources)
    (through : Nat) (x : Message) : Except BrokerError Unit → Moment → Prop
  | .ok _, m => G.calm m ∧ ∃ p, p.destination = held.destination.name ∧
      p.message = x.stamp settings.delivery ∧
      Ongoing i settings held held.settled none through [] [p] m
  | .error cause, m => (G.calm m ∧
      Ongoing i settings held held.settled none through cause.injected [] m) ∧ cause.injected ≠ []

variable (fits) in
/-- After a failure nothing is left aside. -/
theorem secures_rollback {x : Message} {cause : BrokerError} {pending : Option (List Parcel)}
    (hinjected : cause.injected ≠ []) (hpending : pending.isSome = held.transacted)
    (h : Ongoing i settings held pending none through cause.injected [] m) (hcalm : G.calm m) :
    (G.terms fits).Secures i (G.Delivered i settings held through x)
      (do
        if held.transacted then
          Manager.tryCall (.rollback held.session)
        return .error cause) m := by
  cases htransacted : held.transacted with
  | false =>
      have hsettled : held.settled = pending := by
        rw [htransacted, Option.isSome_eq_false_iff, Option.isNone_iff_eq_none] at hpending
        simp [Resources.settled, htransacted, hpending]
      rw [← hsettled] at h
      exact secures_done_during G.quiet_calm (fun _ hm => hm) h hcalm
        fun m h hm => ⟨⟨hm, h⟩, hinjected⟩
  | true =>
      have hsettled : held.settled = some [] := by simp [Resources.settled, htransacted]
      rw [htransacted] at hpending
      obtain ⟨parcels, rfl⟩ := Option.isSome_iff_exists.mp hpending
      refine secures_call_during G.quiet_calm (fun _ hm => hm) h hcalm
        fun m reply b h hm hperform => ?_
      have hrolledBack := rolledBack_of_ongoing h hperform
      rw [← hsettled] at hrolledBack
      exact secures_done_during G.quiet_calm (fun _ hm => hm) hrolledBack
        (G.quiet_calm.called m i _ reply b hperform rfl hm) fun m h hm => ⟨⟨hm, h⟩, hinjected⟩

theorem secures_deliver {x : Message}
    (h : Ongoing i settings held held.settled none through [] [] m)
    (hpermit : G.permit held.destination.name m) :
    (G.terms fits).Secures i (G.Delivered i settings held through x)
      (Router.deliver held x) m := by
  refine secures_call_during (G.quiet_permit _) (G.calm_of_permit _) h hpermit
    fun m reply b h hm hperform => ?_
  cases reply with
  | error cause =>
      have hnone : m.broker.delivered m.now (.call (.send held.producer x)) = [] :=
        Broker.delivered_of_error (congrArg Prod.fst hperform)
      have hpermit := (G.quiet_permit _).called m i _ _ b hperform hnone hm
      -- a message that was not taken has used no permit, so it is as if there had been none
      refine secures_rollback fits (injected_of_send h hperform) ?_
        (h.called_failed hperform rfl (by simp)) (G.calm_of_permit _ _ hpermit)
      cases hheld : held.transacted <;> simp [Resources.settled, hheld]
  | ok u =>
      obtain ⟨p, hdestination, hmessage, hsent⟩ := sent_of_ongoing h hm hperform
      cases htransacted : held.transacted with
      | false =>
          rw [htransacted] at hsent
          apply secures_done_during G.quiet_calm (fun _ hm => hm) hsent.1 hsent.2
          intro m h hm
          exact ⟨hm, p, hdestination, hmessage, h⟩
      | true =>
          rw [htransacted] at hsent
          refine secures_call_during (G.quiet_permit _) (G.calm_of_permit _) hsent.1 hsent.2
            fun m reply b h hm hperform => ?_
          cases reply with
          | error cause =>
              have hnone : m.broker.delivered m.now (.call (.commit held.session)) = [] :=
                Broker.delivered_of_error (congrArg Prod.fst hperform)
              have hpermit := (G.quiet_permit _).called m i _ _ b hperform hnone hm
              have hrollback := secures_rollback fits (x := x) (injected_of_commit h hperform)
                (by simp [htransacted]) (h.called_failed hperform rfl (by simp))
                (G.calm_of_permit _ _ hpermit)
              rw [htransacted] at hrollback
              exact hrollback
          | ok u =>
              obtain ⟨hcommitted, hcalm⟩ := committed_of_ongoing hdestination h hm hperform
              have hsettled : held.settled = some [] := by simp [Resources.settled, htransacted]
              rw [← hsettled] at hcommitted
              apply secures_done_during G.quiet_calm (fun _ hm => hm) hcommitted hcalm
              intro m h hm
              exact ⟨hm, p, hdestination, hmessage, h⟩

end Gate

namespace RouterError

/-- The fault that a router error reports. -/
def injected : RouterError → List FaultPoint
  | .admissionCheck _ cause => cause.injected
  | .publish _ cause => cause.injected
  | _ => []

end RouterError

/-- Why a publishing may fail: the message cannot be made, a fault was met, the destination stayed
too full, or there is nothing to publish with. -/
inductive Excused (r : Router) (values : Context) : Except RouterError Unit → Prop
  | sent : Excused r values (.ok ())
  | unprepared {e : RouterError} (h : r.prepare values = .error e) : Excused r values (.error e)
  | faulted {e : RouterError} (h : e.injected ≠ []) : Excused r values (.error e)
  | late {e : RouterError} (h : e.isBackpressure = true) : Excused r values (.error e)
  | notReady (state : LifecycleState) : Excused r values (.error (.notReady state))

/-- What publishing with the resources that are held has come to. -/
structure Published (r : Router) (held : Resources) (values : Context) (x : Except RouterError Unit)
    (i : Nat) (m : Moment) : Prop where
  ongoing : ∃ through spent sent, Ongoing i r.config.connection held held.settled none through spent
    sent m ∧
      match x with
      | .ok _ => spent = [] ∧ ∃ p prepared, sent = [p] ∧ r.prepare values = .ok prepared ∧
          p.message = prepared.stamp r.config.connection.delivery
      | .error e => spent = e.injected ∧ sent = []
  late : ∀ e, x = .error e → e.isBackpressure = true → ∃ e ∈ m.own i, e.deed.waits
  admitted : x = .ok () → ∃ a : Admission, a.Shown r.config.admission held.destination (m.own i)
  excused : Excused r values x

namespace Gate

open Terms

variable {r : Router} {G : Gate r.config.admission} {fits : ConnectionSettings → Prop}
variable {i : Nat} {held : Resources} {m : Moment}

theorem error_of_prepare {values : Context} {e : RouterError}
    (h : r.prepare values = .error e) :
    (∃ cause, e = .encoding cause) ∨ ∃ cause, e = .correlation cause := by
  unfold Router.prepare at h
  split at h
  next cause _ => exact .inl ⟨cause, (Except.error.inj h).symm⟩
  next =>
    split at h
    next cause _ => exact .inr ⟨cause, (Except.error.inj h).symm⟩
    next => simp at h

theorem secures_failure {values : Context} {e : RouterError} {through : Nat} {P : Moment → Prop}
    (hfits : fits r.config.connection) (hP : Quiet P) (hcalm : ∀ m, P m → G.calm m)
    (hlate : ∀ m, P m → e.isBackpressure = true → ∃ e ∈ m.own i, e.deed.waits)
    (hexcused : Excused r values (.error e))
    (h : Ongoing i r.config.connection held held.settled none through e.injected [] m) (hm : P m) :
    (G.terms fits).Secures i (fun x m => (G.terms fits).calm m ∧ Published r held values x i m)
      (Script.done (.error e)) m := by
  apply secures_done_during hP hcalm h hm
  intro m h hm
  refine ⟨⟨inOrder_of_ongoing h hfits, hcalm m hm⟩, ⟨through, _, _, h, rfl, rfl⟩, ?_,
    by simp, hexcused⟩
  rintro _ ⟨⟩
  exact hlate m hm

variable (fits) in
theorem secures_publishWith (hfits : fits r.config.connection) (values : Context)
    (h : Ongoing i r.config.connection held held.settled none 0 [] [] m) (hcalm : G.calm m) :
    (G.terms fits).Secures i (fun x m => (G.terms fits).calm m ∧ Published r held values x i m)
      (r.publishWith held values) m := by
  unfold Router.publishWith
  split
  next e hprepare =>
    rcases error_of_prepare hprepare with ⟨cause, rfl⟩ | ⟨cause, rfl⟩ <;>
      exact secures_failure hfits G.quiet_calm (fun _ hm => hm)
        (by simp [RouterError.isBackpressure]) (.unprepared hprepare) h hcalm
  next prepared hprepare =>
    refine Secures.bind ((secures_awaitCapacity hfits h hcalm).mono fun x m hx => ?_)
    cases x with
    | error e =>
        obtain ⟨h, hcalm, hwaited, hinjected⟩ := hx
        cases e with
        | timedOut depth | stalled depth =>
            have hP := G.quiet_calm.and (.happened i fun e => e.deed.waits)
            exact secures_failure hfits hP (fun _ hm => hm.1) (fun m hm _ => hm.2) (.late rfl) h
              ⟨hcalm, hwaited rfl⟩
        | inspection cause =>
            exact secures_failure hfits G.quiet_calm (fun _ hm => hm)
              (by simp [RouterError.isBackpressure]) (.faulted (hinjected cause rfl)) h hcalm
    | ok a =>
        obtain ⟨h, hpermit, hshown⟩ := hx
        have hlasting : ∀ own later, a.Shown r.config.admission held.destination own →
            a.Shown r.config.admission held.destination (own ++ later) :=
          fun _ later h => h.append later
        refine Secures.bind (((secures_deliver h hpermit).owned hlasting hshown).mono
          fun y m hy => ?_)
        obtain ⟨hy, hshown⟩ := hy
        cases y with
        | error cause =>
            obtain ⟨⟨hcalm, h⟩, hinjected⟩ := hy
            exact secures_failure hfits G.quiet_calm (fun _ hm => hm)
              (by simp [RouterError.isBackpressure]) (.faulted hinjected) h hcalm
        | ok u =>
            obtain ⟨hcalm, p, hdestination, hmessage, h⟩ := hy
            have hP := G.quiet_calm.and (.shown r.config.admission held.destination a i)
            apply secures_done_during hP (fun _ hm => hm.1) h ⟨hcalm, hshown⟩
            intro m h hm
            exact ⟨⟨inOrder_of_ongoing h hfits, hm.1⟩,
              ⟨_, _, _, h, rfl, p, prepared, rfl, hprepare, hmessage⟩, by simp,
              fun _ => ⟨a, hm.2⟩, .sent⟩

end Gate

end Sluice
