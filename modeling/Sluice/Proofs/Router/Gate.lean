import Sluice.Proofs.Router.Course

/-! # Gates

A gate says on what further terms a router lets a message pass: a permit is given when a wait is
ended by the signal, when the depth is found below the mark, or when the destination is not looked
at, and whoever has it may send one message. Whatever is asked of a gate, one walk through
publishing shows that it is kept, and what the publishing comes to.
-/

namespace Sluice

namespace Deed

/-- Whether this was a wait at a gate or a look at a depth. -/
def waits : Deed → Bool
  | .rested _ => true
  | .operated (.call (.browse _)) => true
  | _ => false

/-- Whether the signal was found to let everybody through. -/
def letsThrough : Deed → Bool
  | .rested early => early
  | .looked isShutDown => isShutDown
  | _ => false

end Deed

/-- A browser was asked for, and the destination counted as one of a kind. -/
def Event.Finds (e : Event) (d : Destination) (kind : DestinationKind) : Prop :=
  ∃ s, e.deed = .operated (.call (.createBrowser s d)) ∧ e.before.broker.kindOf d = kind

/-- How it shows in what a task has done that it was let through. -/
def Admission.Shown (admission : AdmissionConfig) (d : Destination) : Admission → List Event → Prop
  | .disabled, _ => admission.isEnabled = false
  | .notInspectable, own => ∃ e ∈ own, e.Finds d .topic
  | .admitted _, own => ∃ e ∈ own, e.deed.waits
  | .interrupted, own => ∃ e ∈ own, e.deed.letsThrough

theorem Admission.Shown.append {admission : AdmissionConfig} {d : Destination} {a : Admission}
    {own : List Event} (h : a.Shown admission d own) (later : List Event) :
    a.Shown admission d (own ++ later) := by
  have hlater : ∀ {p : Event → Prop}, (∃ e ∈ own, p e) → ∃ e ∈ own ++ later, p e := by
    rintro p ⟨e, he, hp⟩
    exact ⟨e, List.mem_append_left _ he, hp⟩
  cases a with
  | disabled => exact h
  | notInspectable => exact hlater h
  | admitted waited => exact hlater h
  | interrupted => exact hlater h

/-- The fault that an admission error reports. -/
def AdmissionError.injected : AdmissionError → List FaultPoint
  | .timedOut _ => []
  | .inspection cause => cause.injected
  | .stalled _ => []

/-- Whether the depth was looked at to the last, and stayed too great. -/
def AdmissionError.isLate : AdmissionError → Bool
  | .timedOut _ => true
  | .inspection _ => false
  | .stalled _ => true

/-- An assertion that is kept by whatever sends nothing, as long as nobody is let through. -/
structure Quiet (P : Moment → Prop) : Prop where
  stable : Stable P
  idled : ∀ m i d, d.letsThrough = false → P m → P (m.idled i d)
  called : ∀ m i c reply b, m.broker.perform m.now c = (reply, b) →
    m.broker.delivered m.now (.call c) = [] → P m → P (m.called i c reply b)

namespace Quiet

variable {P P' : Moment → Prop}

theorem and (h : Quiet P) (h' : Quiet P') : Quiet fun m => P m ∧ P' m where
  stable i m m' hshift hm := ⟨h.stable i m m' hshift hm.1, h'.stable i m m' hshift hm.2⟩
  idled m i d hd hm := ⟨h.idled m i d hd hm.1, h'.idled m i d hd hm.2⟩
  called m i c reply b hperform hsent hm :=
    ⟨h.called m i c reply b hperform hsent hm.1, h'.called m i c reply b hperform hsent hm.2⟩

theorem imp (p : Prop) (h : Quiet P) : Quiet fun m => p → P m where
  stable i m m' hshift hm hp := h.stable i m m' hshift (hm hp)
  idled m i d hd hm hp := h.idled m i d hd (hm hp)
  called m i c reply b hperform hsent hm hp := h.called m i c reply b hperform hsent (hm hp)

/-- What a task has shown once it has shown. -/
theorem owned (i : Nat) {S : List Event → Prop} (hS : ∀ own later, S own → S (own ++ later)) :
    Quiet fun m => S (m.own i) where
  stable j m m' hshift hm := by
    cases hshift with
    | beside now signal events hnow hsignal hevents =>
        simp only [Moment.own, List.filter_append]
        exact hS _ _ hm
    | operated o huses =>
        rw [Moment.own_note]
        exact hS _ _ hm
  idled m j d _ hm := by
    rw [Moment.idled, Moment.own_note]
    exact hS _ _ hm
  called m j c reply b hperform hsent hm := by
    rw [Moment.called, Moment.own_note]
    exact hS _ _ hm

theorem happened (i : Nat) (p : Event → Prop) : Quiet fun m => ∃ e ∈ m.own i, p e := by
  apply owned i (S := fun own => ∃ e ∈ own, p e)
  rintro own later ⟨e, he, hp⟩
  exact ⟨e, List.mem_append_left _ he, hp⟩

theorem shown (admission : AdmissionConfig) (d : Destination) (a : Admission) (i : Nat) :
    Quiet fun m => a.Shown admission d (m.own i) :=
  owned i (S := a.Shown admission d) fun _ later h => h.append later

end Quiet

/-- What is asked of the publishing of a router besides keeping its manager in order. -/
structure Gate (admission : AdmissionConfig) extends Terms where
  /-- Whether a message may be sent to a destination. -/
  permit : String → Moment → Prop
  /-- Whether a ticket may have been given out. -/
  ticket : Nat → Prop
  calm_of_permit : ∀ name m, permit name m → calm m
  quiet_calm : Quiet calm
  quiet_permit : ∀ name, Quiet (permit name)
  calm_kept : ∀ m i x, calm m → calm (m.kept i x)
  permit_disabled : admission.isEnabled = false → ∀ name m, calm m → permit name m
  ticket_of_calm : ∀ m, calm m → ticket m.signal.rounds
  permit_ended : ∀ name m i d, d.letsThrough = true → (m.own i).countP (·.deed.letsThrough) = 0 →
    (m.signal.isShutDown = true ∨ ∃ n, ticket n ∧ n < m.signal.rounds) → calm m →
      permit name (m.idled i d)
  permit_topic : ∀ d m, m.broker.kindOf d = .topic → calm m → permit d.name m
  permit_below : ∀ name m, (m.broker.depth m.now name).1 < admission.threshold → calm m →
    permit name m
  calm_sent : ∀ name m i c reply b p, m.broker.perform m.now c = (reply, b) →
    m.broker.delivered m.now (.call c) = [p] → p.destination = name → permit name m →
      calm (m.called i c reply b)
  resting_inspected : ∀ events held, (∃ e ∈ events, e.before.manager.resources = some held ∧
    e.Finds held.destination .queue) → resting events

/-- Two gates at once. -/
def Gate.both {admission : AdmissionConfig} (G G' : Gate admission) : Gate admission where
  toTerms := G.toTerms.both G'.toTerms
  permit name m := G.permit name m ∧ G'.permit name m
  ticket n := G.ticket n ∧ G'.ticket n
  calm_of_permit name m h := ⟨G.calm_of_permit name m h.1, G'.calm_of_permit name m h.2⟩
  quiet_calm := G.quiet_calm.and G'.quiet_calm
  quiet_permit name := (G.quiet_permit name).and (G'.quiet_permit name)
  calm_kept m i x h := ⟨G.calm_kept m i x h.1, G'.calm_kept m i x h.2⟩
  permit_disabled hdisabled name m h :=
    ⟨G.permit_disabled hdisabled name m h.1, G'.permit_disabled hdisabled name m h.2⟩
  ticket_of_calm m h := ⟨G.ticket_of_calm m h.1, G'.ticket_of_calm m h.2⟩
  permit_ended name m i d hthrough hnone hraised h := by
    refine ⟨G.permit_ended name m i d hthrough hnone ?_ h.1,
      G'.permit_ended name m i d hthrough hnone ?_ h.2⟩
    · exact hraised.imp_right fun ⟨n, hn, hlt⟩ => ⟨n, hn.1, hlt⟩
    · exact hraised.imp_right fun ⟨n, hn, hlt⟩ => ⟨n, hn.2, hlt⟩
  permit_topic d m hkind h := ⟨G.permit_topic d m hkind h.1, G'.permit_topic d m hkind h.2⟩
  permit_below name m hbelow h :=
    ⟨G.permit_below name m hbelow h.1, G'.permit_below name m hbelow h.2⟩
  calm_sent name m i c reply b p hperform hsent hname h :=
    ⟨G.calm_sent name m i c reply b p hperform hsent hname h.1,
      G'.calm_sent name m i c reply b p hperform hsent hname h.2⟩
  resting_inspected events held h :=
    ⟨G.resting_inspected events held h, G'.resting_inspected events held h⟩

/-- A task is publishing with the resources of its manager: what it has done so far, and what is
under way. -/
structure Ongoing (i : Nat) (settings : ConnectionSettings) (held : Resources)
    (pending : Option (List Parcel)) (browser : Option (Handle .browser)) (through : Nat)
    (spent : List FaultPoint) (sent : List Parcel) (m : Moment) : Prop where
  keeps : m.broker.Keeps m.ours
  manager : m.manager = { state := .ready, held := some held }
  serves : m.broker.Serves m.ours settings held pending
  browsing : ∀ w, browser = some w → w.any ∈ m.ours ∧
    m.broker.record? w.any = some (.browser { destination := held.destination.name })
  gained : ∀ kind, gained kind (m.own i) = if browser.isSome then oneOf .browser kind else 0
  course : Course { state := .ready, held := some held } held.destination.name spent sent (m.own i)
  waits : ∀ e ∈ m.own i, e.deed.waits → ∃ e ∈ m.own i, e.Finds held.destination .queue
  passes : (m.own i).countP (·.deed.letsThrough) = through

namespace Ongoing

variable {i : Nat} {settings : ConnectionSettings} {held : Resources} {m m' : Moment}
variable {pending : Option (List Parcel)} {browser : Option (Handle .browser)}
variable {through : Nat} {spent : List FaultPoint} {sent : List Parcel}

theorem shift (h : Ongoing i settings held pending browser through spent sent m)
    (hshift : Shift i m m') : Ongoing i settings held pending browser through spent sent m' := by
  have hframe := hshift.frame h.keeps
  have hours : ∀ k ∈ m.ours, k ∈ m'.ours := by
    intro k hk
    rw [hframe.ours]
    exact hk
  refine ⟨hframe.keeps, hframe.manager.trans h.manager, h.serves.congr hframe.record hours, ?_, ?_,
    ?_, ?_, ?_⟩
  · intro w hw
    obtain ⟨hmine, hrecord⟩ := h.browsing w hw
    exact ⟨hours _ hmine, (hframe.record _ hmine).trans hrecord⟩
  · intro kind
    rw [hframe.own, h.gained]
  · rw [hframe.own]
    exact h.course
  · rw [hframe.own]
    exact h.waits
  · rw [hframe.own]
    exact h.passes

/-- Whoever was let through when the wait was ended has found so. -/
theorem passed (h : Ongoing i settings held pending browser 1 spent sent m) :
    ∃ e ∈ m.own i, e.deed.letsThrough = true := by
  have hpos : 0 < (m.own i).countP (·.deed.letsThrough) := by
    rw [h.passes]
    exact Nat.one_pos
  exact List.countP_pos_iff.mp hpos

/-- What a task has found while it is publishing it found for the resources that are held. -/
theorem found (h : Ongoing i settings held pending browser through spent sent m)
    (hfound : ∃ e ∈ m.own i, e.Finds held.destination .queue) :
    ∃ e ∈ m.own i, e.before.manager.resources = some held ∧ e.Finds held.destination .queue := by
  obtain ⟨e, he, hfinds⟩ := hfound
  refine ⟨e, he, ?_, hfinds⟩
  rw [(h.course.manager e he).1]
  rfl

/-- The task did something that changed nothing. -/
theorem idled (h : Ongoing i settings held pending browser through spent sent m) (d : Deed)
    (hwaits : d.waits = true → ∃ e ∈ m.own i, e.Finds held.destination .queue) :
    Ongoing i settings held pending browser (through + d.letsThrough.toNat) spent sent
      (m.idled i d) := by
  have hdoes := Event.does_nothing (e := ⟨some i, d, m.now, m.toGround, m.toGround⟩) rfl
    held.destination.name
  rw [h.manager] at hdoes
  refine ⟨h.keeps, h.manager, h.serves, h.browsing, ?_, ?_, ?_, ?_⟩
  · intro kind
    rw [Moment.own_idled, gained_append, h.gained]
    simp [Sluice.gained]
  · rw [Moment.own_idled]
    exact h.course.quiet hdoes
  · rw [Moment.own_idled]
    intro e he hwait
    obtain ⟨e', he', hinspects⟩ : ∃ e ∈ m.own i, e.Finds held.destination .queue := by
      rcases List.mem_append.mp he with hold | hnew
      · exact h.waits e hold hwait
      · rw [List.mem_singleton.mp hnew] at hwait
        exact hwaits hwait
    exact ⟨e', List.mem_append_left _ he', hinspects⟩
  · rw [Moment.own_idled, List.countP_append, h.passes]
    cases hd : d.letsThrough <;> simp [hd]

/-- The task made a call. -/
theorem called (pending' : Option (List Parcel)) (browser' : Option (Handle .browser))
    (h : Ongoing i settings held pending browser through spent sent m) {c : Call}
    {reply : c.Reply} {b : Broker} (hperform : m.broker.perform m.now c = (reply, b))
    (hsent : ∀ p ∈ m.broker.delivered m.now (.call c), p.destination = held.destination.name)
    (hwaits : ∀ w, c = .browse w →
      (∀ r, m.broker.openBrowser? w = some r → r.destination = held.destination.name) ∧
        ∃ e ∈ m.own i, e.Finds held.destination .queue)
    (hserves : b.Serves (m.ours ++ c.opened reply) settings held pending')
    (hbrowser : ∀ w, browser' = some w → w.any ∈ m.ours ++ c.opened reply ∧
      b.record? w.any = some (.browser { destination := held.destination.name }))
    (hgrown : ∀ kind, (b.openHandles.count kind : Int) - m.broker.openHandles.count kind =
      (if browser'.isSome then oneOf .browser kind else 0) -
        if browser.isSome then oneOf .browser kind else 0) :
    Ongoing i settings held pending' browser' through (spent ++ Broker.spent reply)
      (sent ++ m.broker.delivered m.now (.call c)) (m.called i c reply b) := by
  have heffect := Broker.effect_of_perform hperform
  have hdoes := Event.does_called (i := i) hperform (fun w r hc hopen => (hwaits w hc).1 r hopen)
    hsent
  rw [h.manager] at hdoes
  refine ⟨h.keeps.ours heffect.booked, h.manager, hserves, hbrowser, ?_, ?_, ?_, ?_⟩
  · intro kind
    have hcount := hgrown kind
    rw [Moment.own_called, gained_append, h.gained]
    simp only [Sluice.gained, List.map_cons, List.map_nil, List.sum_cons, List.sum_nil]
    omega
  · rw [Moment.own_called, h.manager]
    exact h.course.snoc hdoes
  · rw [Moment.own_called]
    intro e he hwait
    obtain ⟨e', he', hinspects⟩ : ∃ e ∈ m.own i, e.Finds held.destination .queue := by
      rcases List.mem_append.mp he with hold | hnew
      · exact h.waits e hold hwait
      · rw [List.mem_singleton.mp hnew] at hwait
        cases c with
        | browse w => exact (hwaits w rfl).2
        | _ => simp [Deed.waits] at hwait
    exact ⟨e', List.mem_append_left _ he', hinspects⟩
  · rw [Moment.own_called, List.countP_append, h.passes]
    simp [Deed.letsThrough]

/-- The task made a call that left all handles as they were. -/
theorem called_same (h : Ongoing i settings held pending browser through spent sent m) {c : Call}
    {reply : c.Reply} {b : Broker} (hperform : m.broker.perform m.now c = (reply, b))
    (hsent : ∀ p ∈ m.broker.delivered m.now (.call c), p.destination = held.destination.name)
    (hwaits : ∀ w, c = .browse w →
      (∀ r, m.broker.openBrowser? w = some r → r.destination = held.destination.name) ∧
        ∃ e ∈ m.own i, e.Finds held.destination .queue)
    (hsame : m.broker.SameHandles b) :
    Ongoing i settings held pending browser through (spent ++ Broker.spent reply)
      (sent ++ m.broker.delivered m.now (.call c)) (m.called i c reply b) := by
  have hrecord : ∀ k, b.record? k = m.broker.record? k := fun k => congrFun hsame.record? k
  refine h.called pending browser hperform hsent hwaits ?_ ?_ ?_
  · exact h.serves.congr (fun k _ => hrecord k) fun k hk => List.mem_append_left _ hk
  · intro w hw
    obtain ⟨hmine, hbrowser⟩ := h.browsing w hw
    exact ⟨List.mem_append_left _ hmine, (hrecord _).trans hbrowser⟩
  · intro kind
    rw [hsame.openHandles]
    omega

/-- The task made a call that failed. -/
theorem called_failed (h : Ongoing i settings held pending browser through spent sent m) {c : Call}
    {e : BrokerError} {b : Broker} (hperform : m.broker.perform m.now c = (.error e, b))
    (hcloses : c.closes = none)
    (hwaits : ∀ w, c = .browse w →
      (∀ r, m.broker.openBrowser? w = some r → r.destination = held.destination.name) ∧
        ∃ e ∈ m.own i, e.Finds held.destination .queue) :
    Ongoing i settings held pending browser through (spent ++ e.injected) sent
      (m.called i c (.error e) b) := by
  have hsent : m.broker.delivered m.now (.call c) = [] :=
    Broker.delivered_of_error (congrArg Prod.fst hperform)
  have hcalled := h.called_same hperform (by simp [hsent]) hwaits
    ((Broker.effect_of_perform hperform).failed hcloses)
  rw [hsent, List.append_nil] at hcalled
  exact hcalled

end Ongoing

end Sluice
