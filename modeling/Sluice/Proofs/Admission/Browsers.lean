import Sluice.Proofs.Admission.Rests
import Sluice.Proofs.Task.Chronicle

/-! # Whoever is given a browser closes it

A wait for capacity asks for one browser, and closes it before it comes back, however it ends. So
when it has come back nothing that the broker gave to it is open, whatever others did meanwhile.
-/

namespace Sluice

/-- The handles that were given out when an event was noted. -/
def Event.opened (e : Event) : List AnyHandle :=
  match e.deed with
  | .operated (.call c) => c.opened (e.before.broker.perform e.now c).1
  | _ => []

/-- What is noted of an answer tells which handles were given out. -/
theorem Answered.opened {i : Nat} {m m' : Moment} {r : Request} {a : r.Answer}
    (h : Answered i m r a m') :
    (Event.mk (some i) (r.deed a) m.now m.toGround m'.toGround).opened = r.opened a := by
  obtain ⟨met, hmet, -⟩ := h
  cases hmet <;> rfl

/-- What was given out is known. -/
theorem Answered.isSome_of_opened {i : Nat} {m m' : Moment} {r : Request} {a : r.Answer}
    (h : Answered i m r a m') {handle : AnyHandle} (hmem : handle ∈ r.opened a) :
    (m'.broker.record? handle).isSome := by
  obtain ⟨met, hmet, rfl⟩ := h
  cases hmet with
  | call c => exact (m.broker.booked_perform m.now c).isSome_of_opened hmem
  | _ => exact absurd hmem (by simp [Request.opened])

theorem Broker.isOpen_closeBrowser (b : Broker) (now : Nat) (w : Handle .browser) :
    (b.perform now (.closeBrowser w)).2.isOpen w.any = false := by
  have hrecord : ∀ b' : Broker, b'.isOpen w.any = (b'.openBrowser? w).isSome := by
    intro b'
    cases hw : b'.browsers[w.index]? with
    | none => simp [isOpen, record?, records, Handle.any, openBrowser?, hw]
    | some r =>
        cases hopen : r.isOpen <;>
          simp [isOpen, record?, records, Handle.any, openBrowser?, hw, hopen, Record.isOpen]
  rw [hrecord]
  simp only [perform, closeBrowser]
  split
  next hnone => simp [hnone]
  next r hopen =>
    obtain ⟨hw, -⟩ := openBrowser?_eq_some.mp hopen
    simp [openBrowser?, countClosed, hw]

/-- Whatever is answered, nothing is asked for that would have to be closed. -/
def Agreement.unopened : Agreement where
  may r := ∀ a, r.opened a = []
  answers _ _ := True

namespace Work

variable {α β : Type} {c : AdmissionConfig}

/-- Whatever is answered, a browser is closed in the end. -/
def Closes (handle : AnyHandle) : Work α → Prop
  | .done _ => False
  | Script.ask r next =>
      (∃ w : Handle .browser, w.any = handle ∧ r = .call (.closeBrowser w)) ∨
        ∀ a, Closes handle (next a)

/-- Whatever is answered, everything that is given is closed in the end. -/
def ClosesAll : Work α → Prop
  | .done _ => True
  | Script.ask r next =>
      ∀ a, ClosesAll (next a) ∧ ∀ handle ∈ r.opened a, Closes handle (next a)

theorem closes_bind {handle : AnyHandle} {w : Work α} {f : α → Work β}
    (hf : ∀ x, (f x).Closes handle) : (w >>= f).Closes handle := by
  induction w with
  | done x => exact hf x
  | ask r next ih => exact .inr fun a => ih a

theorem closesAll_bind {w : Work α} {f : α → Work β} (h : w.Honours .unopened fun _ => True)
    (hf : ∀ x, (f x).ClosesAll) : (w >>= f).ClosesAll := by
  induction w with
  | done x => exact hf x
  | ask r next ih =>
      obtain ⟨hopened, hnext⟩ := h
      refine fun a => ⟨ih a (hnext a trivial), fun handle hmem => ?_⟩
      simp [hopened a] at hmem

theorem closesAll_done (x : α) : ClosesAll (Script.done x) := trivial

theorem closesAll_given {r : Request} {f : r.Answer → Work α}
    (hf : ∀ a, (f a).ClosesAll ∧ ∀ handle ∈ r.opened a, (f a).Closes handle) :
    (Work.ask r >>= f).ClosesAll :=
  hf

/-- Whoever asks for nothing that would have to be closed has nothing to close. -/
theorem closesAll_ask {r : Request} {f : r.Answer → Work α} (hr : ∀ a, r.opened a = [])
    (hf : ∀ a, (f a).ClosesAll) : (Work.ask r >>= f).ClosesAll :=
  closesAll_bind (w := Work.ask r) ⟨hr, fun _ _ => trivial⟩ hf

theorem suits_unopened : Suits c .unopened fun _ => True where
  may _ _ _ hopened := hopened
  rest _ _ _ := rfl
  down _ := trivial
  ended _ _ _ := trivial
  others _ _ := trivial

/-- Whoever waits for capacity closes the browser that is given for it. -/
theorem closesAll_awaitCapacity (session : Handle .session) (d : Destination) :
    (c.awaitCapacity session d).ClosesAll := by
  unfold AdmissionConfig.awaitCapacity
  split
  next => exact closesAll_done _
  next =>
    refine closesAll_ask (fun _ => rfl) fun down => ?_
    cases down with
    | true => exact closesAll_done _
    | false =>
        refine closesAll_given fun reply => ?_
        cases reply with
        | error cause => exact ⟨closesAll_done _, by simp [Request.opened, Call.opened]⟩
        | ok found =>
            cases found with
            | none => exact ⟨closesAll_done _, by simp [Request.opened, Call.opened]⟩
            | some w =>
                refine ⟨closesAll_bind (honours_awaitBelowMark suits_unopened w) fun result =>
                  closesAll_ask (fun _ => rfl) fun _ => closesAll_done _, fun handle hmem => ?_⟩
                obtain rfl := List.mem_singleton.mp hmem
                exact closes_bind fun result => .inl ⟨w, rfl, rfl⟩

end Work

namespace Scene

variable {J α : Type} {work : J → Work α} {s : Scene J α} {i : Nat}

/-- What the broker gave to a task so far. -/
def given (s : Scene J α) (i : Nat) : List AnyHandle := (s.moment.own i).flatMap Event.opened

/-- What was given out stays known, and what is closed stays closed. -/
theorem record?_step (work : J → Work α) (c : Choice J) {handle : AnyHandle} {r : Record}
    (hr : s.broker.record? handle = some r) :
    ∃ r', (s.step work c).broker.record? handle = some r' ∧
      (r'.isOpen = true → r.isOpen = true) := by
  cases s.notes_step work c with
  | nothing hpast hbroker => exact ⟨r, hbroker ▸ hr, id⟩
  | event e hpast hbefore hbroker =>
      rw [hbroker]
      cases e.deed with
      | operated o => exact Broker.record?_operate_of_known hr e.now o
      | _ => exact ⟨r, hr, id⟩

/-- A task closes what is open of that which was given to it. -/
structure LooksAfter (s : Scene J α) (i : Nat) : Prop where
  known : ∀ handle ∈ s.given i, (s.broker.record? handle).isSome
  script : ∀ state, s.state? i = some state → state.Lifts fun w =>
    w.ClosesAll ∧ ∀ handle ∈ s.given i, s.broker.isOpen handle = true → w.Closes handle

namespace LooksAfter

theorem of_unbegun (hfresh : s.Fresh) (hi : s.schedule.tasks.length ≤ i) :
    s.LooksAfter i where
  known handle hmem := by simp [given, hfresh i hi] at hmem
  script state hstate := by simp [state?_eq_none_iff.mpr hi] at hstate

/-- Of what was given before nothing is open that was closed. -/
theorem isOpen_step (h : s.LooksAfter i) (c : Choice J) {handle : AnyHandle}
    (hmem : handle ∈ s.given i) (hopen : (s.step work c).broker.isOpen handle = true) :
    s.broker.isOpen handle = true := by
  obtain ⟨r, hr⟩ := Option.isSome_iff_exists.mp (h.known handle hmem)
  obtain ⟨r', hr', hle⟩ := record?_step work c hr
  rw [Broker.isOpen, hr', Option.any_some] at hopen
  rw [Broker.isOpen, hr, Option.any_some]
  exact hle hopen

theorem known_step (h : s.LooksAfter i) (c : Choice J) :
    ∀ handle ∈ s.given i, ((s.step work c).broker.record? handle).isSome := by
  intro handle hmem
  obtain ⟨r, hr⟩ := Option.isSome_iff_exists.mp (h.known handle hmem)
  obtain ⟨r', hr', -⟩ := record?_step work c hr
  rw [hr']
  rfl

theorem step (h : s.LooksAfter i) (hregular : s.Regular) (hfresh : s.Fresh)
    (hwork : ∀ job, (work job).ClosesAll) (c : Choice J) : (s.step work c).LooksAfter i := by
  by_cases hact : c = .act i
  · subst hact
    rcases promise_act hregular h.script with
      ⟨hsame, hlifts⟩ | ⟨r, next, a, -, ⟨hall, hcloses⟩, -, hanswered, hstate⟩
    · have hgiven : (s.step work (.act i)).given i = s.given i :=
        congrArg (fun m : Moment => (m.own i).flatMap Event.opened) hsame
      refine ⟨hgiven ▸ h.known_step (.act i), fun state hstate => ?_⟩
      refine (hlifts state hstate).mono fun w hw => ⟨hw.1, fun handle hmem hopen => ?_⟩
      rw [hgiven] at hmem
      exact hw.2 handle hmem (h.isOpen_step (.act i) hmem hopen)
    · have hgiven : (s.step work (.act i)).given i = s.given i ++ r.opened a := by
        rw [given, Scene.step, hanswered.own, List.flatMap_append, List.flatMap_singleton,
          hanswered.opened, given]
      refine ⟨fun handle hmem => ?_, fun state hstate' => ?_⟩
      · rw [hgiven, List.mem_append] at hmem
        rcases hmem with hold | hnew
        · exact h.known_step (.act i) handle hold
        · exact hanswered.isSome_of_opened hnew
      · obtain rfl := Option.some.inj (hstate.symm.trans hstate')
        refine ⟨(hall a).1, fun handle hmem hopen => ?_⟩
        rw [hgiven, List.mem_append] at hmem
        rcases hmem with hold | hnew
        · rcases hcloses handle hold (h.isOpen_step (.act i) hold hopen) with
            ⟨w, rfl, rfl⟩ | hnext
          · -- it was closed just now
            obtain ⟨met, hmet, hnoted⟩ := hanswered
            cases hmet
            have hbroker : (s.step work (.act i)).broker =
                (s.broker.perform s.schedule.now (.closeBrowser w)).2 :=
              congrArg (fun m : Moment => m.broker) hnoted
            rw [hbroker, Broker.isOpen_closeBrowser] at hopen
            cases hopen
          · exact hnext a
        · exact (hall a).2 handle hnew
  · have hgiven : (s.step work c).given i = s.given i := by
      rw [given, own_step_of_ne work hregular hact, given]
    refine ⟨hgiven ▸ h.known_step c, fun state hstate => ?_⟩
    rw [hgiven]
    rcases state?_step hregular hact hstate with hsame | ⟨rfl, -⟩ | ⟨job, -, hi, rfl⟩
    · exact (h.script state hsame).mono fun w hw => ⟨hw.1, fun handle hmem hopen =>
        hw.2 handle hmem (h.isOpen_step c hmem hopen)⟩
    · trivial
    · refine ⟨hwork job, fun handle hmem => ?_⟩
      simp [given, hfresh i hi.ge] at hmem

/-- Whoever has come back has closed everything. -/
theorem closed (h : s.LooksAfter i) {x : α} (hx : s.outcome? i = some x) :
    ∀ handle ∈ s.given i, s.broker.isOpen handle = false := by
  intro handle hmem
  rw [← Bool.not_eq_true]
  intro hopen
  rcases state_of_outcome hx with hstate | hstate
  · exact (h.script _ hstate).2 handle hmem hopen
  · exact (h.script _ hstate).2 handle hmem hopen

end LooksAfter

end Scene

end Sluice
