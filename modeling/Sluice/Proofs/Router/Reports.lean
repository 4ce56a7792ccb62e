import Mathlib.Algebra.BigOperators.Group.Finset.Piecewise
import Sluice.Proofs.Router.CallOrder
import Sluice.Proofs.Task.Stillness

/-! # What every task reports

Whoever comes back has opened as many handles as the manager has taken over in the meantime, and has
closed as many as it has given up; so once everybody has come back and the manager is closed, no
handle is open that was opened for the router. A publishing reports why it failed, if it did, and
whoever closes a router leaves it closed.
-/

namespace Sluice

/-- How many handles of a kind a manager holds. -/
def Manager.holding (x : Manager) (kind : HandleKind) : Int :=
  if x.state = .ready then oneOfEach kind else 0

/-- By how many handles of a kind the manager took over more by events than it gave up. -/
def taken (kind : HandleKind) (events : List Event) : Int :=
  (events.map fun e => e.after.manager.holding kind - e.before.manager.holding kind).sum

@[simp] theorem taken_append (kind : HandleKind) (first second : List Event) :
    taken kind (first ++ second) = taken kind first + taken kind second := by
  simp [taken]

/-- All handles that were opened were taken over by the manager or closed again, and all that it
gave up were closed. -/
def Tallied (events : List Event) : Prop := ∀ kind, gained kind events = taken kind events

theorem tallied_append {first second : List Event} (h : Tallied first) (h' : Tallied second) :
    Tallied (first ++ second) := by
  intro kind
  rw [gained_append, taken_append, h, h']

theorem tallied_same {e : Event} (h : e.after = e.before) : Tallied [e] := by
  intro kind
  simp [gained, taken, h]

/-- The manager is only changed by the task itself. -/
def Tracked (i : Nat) (m m' : Moment) : Prop :=
  ∀ kind, taken kind (m'.own i) =
    taken kind (m.own i) + (m'.manager.holding kind - m.manager.holding kind)

namespace Tracked

variable {i : Nat} {m m' m'' : Moment}

theorem refl (i : Nat) (m : Moment) : Tracked i m m := fun _ => by simp

theorem drift (h : Tracked i m m') (hdrift : Drift i m' m'') : Tracked i m m'' := by
  intro kind
  rw [hdrift.own, hdrift.manager]
  exact h kind

theorem answered (h : Tracked i m m') {r : Request} {a : r.Answer} (ha : Answered i m' r a m'') :
    Tracked i m m'' := by
  intro kind
  rw [ha.own, taken_append, h kind]
  simp only [taken, List.map_cons, List.map_nil, List.sum_cons, List.sum_nil]
  ring

end Tracked

/-- Whatever a task secures, it can be told what became of the manager. -/
theorem Terms.Secures.tracked {T : Terms} {α : Type} {i : Nat} {m₀ m : Moment}
    {Q : α → Moment → Prop} {w : Work α} (h : T.Secures i Q w m) (hm : Tracked i m₀ m) :
    T.Secures i (fun x m => Q x m ∧ Tracked i m₀ m) w m :=
  h.along (fun _ _ hdrift htracked => htracked.drift hdrift)
    (fun _ _ _ _ ha htracked => htracked.answered ha) hm

/-- Events in the course of which an armed fault was used up. -/
def Faulted (events : List Event) : Prop :=
  ∃ e ∈ events, ∃ point ∈ e.before.broker.armed, point ∉ e.after.broker.armed

theorem Course.faulted {x : Manager} {name : String} {spent : List FaultPoint}
    {sent : List Parcel} {events : List Event} (h : Course x name spent sent events)
    (hspent : spent ≠ []) : Faulted events := by
  induction h with
  | nil => exact absurd rfl hspent
  | @snoc spent spent' sent sent' events e h hdoes ih =>
      by_cases hlast : spent' = []
      · subst hlast
        rw [List.append_nil] at hspent
        obtain ⟨e, he, hfault⟩ := ih hspent
        exact ⟨e, List.mem_append_left _ he, hfault⟩
      · obtain ⟨point, hpoint⟩ := List.exists_mem_of_ne_nil _ hlast
        have hpresent := hdoes.present point hpoint
        refine ⟨e, List.mem_append_right _ List.mem_cons_self, point, hpresent, ?_⟩
        rw [hdoes.armed]
        simp [hpoint]

namespace Account

variable {r : Router} {values : Context} {own : List Event} {x : Except RouterError Unit}

theorem tallied (h : Account r values own x) : Tallied own := by
  have hkept : ∀ {x : Manager}, (∀ e ∈ own, e.before.manager = x ∧ e.after.manager = x) →
      ∀ kind, taken kind own = 0 := by
    intro x hmanager kind
    have hzero : ∀ e ∈ own, e.after.manager.holding kind - e.before.manager.holding kind = 0 := by
      intro e he
      rw [(hmanager e he).1, (hmanager e he).2, sub_self]
    rw [taken, List.map_congr_left hzero]
    simp
  intro kind
  cases h with
  | notReady hnone hcourse hsettled =>
      rw [hsettled.gained, hkept (hcourse "").manager]
  | failed hheld hcourse hsettled => rw [hsettled.gained, hkept hcourse.manager]
  | sent hheld hcarries hcourse hsettled => rw [hsettled.gained, hkept hcourse.manager]

/-- A publishing that failed by a fault has used it up. -/
theorem faulted {e : RouterError} (h : Account r values own (.error e)) (he : e.injected ≠ []) :
    Faulted own := by
  cases h with
  | notReady => exact absurd rfl he
  | failed hheld hcourse hsettled => exact hcourse.faulted he

end Account

/-- What a task reports in the end. -/
structure Job.Reports (r : Router) (job : Job) (x : Outcome) (own : List Event) : Prop where
  tallied : Tallied own
  excused : ∀ values, job.values? r = some values →
    ∃ y, (x = .routed y ∨ x = .visited (y.map fun _ => true)) ∧ Account r values own y ∧
      Excused r values y
  closed : job = .close → ∃ e ∈ own.getLast?, e.after.manager = { state := .closed }

namespace Gate

open Terms

variable {r : Router} {G : Gate r.config.admission} {i : Nat} {m : Moment}

/-- As many handles were opened as the manager took over, from one moment to another. -/
def TakesOver (i : Nat) (m m' : Moment) : Prop :=
  ∀ kind, gained kind (m'.own i) =
    gained kind (m.own i) + (m'.manager.holding kind - m.manager.holding kind)

theorem takesOver_of_started {x : Except ConfigurationError Unit} {m' : Moment}
    (h : Manager.Started i m x m') : TakesOver i m m' := by
  intro kind
  cases h with
  | ready held hstate hmanager hgained => simp [hgained, hmanager, Manager.holding, hstate]
  | failed e hstate hmanager hgained => simp [hgained, hmanager, Manager.holding, hstate]
  | refused hstate hmanager hgained => simp [hgained, hmanager]

theorem takesOver_of_closed {m' : Moment} (h : Manager.Closed i m m') : TakesOver i m m' := by
  intro kind
  simp [h.gained, Manager.holding, h.state, sub_eq_add_neg]

/-- What is reported of work inside the lock that sends nothing. -/
theorem reports_discreet {α : Type} (job : Job) {body : Work α} (f : α → Outcome)
    (hjob : job.values? r = none) (hbody : body.Discreet) (hown : Tallied (m.own i))
    (horder : ∀ m', InOrder (· = r.config.connection) m' →
      (Terms.order (· = r.config.connection)).Secures i
        (fun _ m'' => InOrder (· = r.config.connection) m'' ∧ TakesOver i m' m'' ∧
          (job = .close → m''.manager = { state := .closed })) body m') :
    G.life.Abides i (job.Reports r) (Work.locked body >>= fun x => Script.done (f x)) false m := by
  refine abides_discreet hbody fun m' horder' hown' => ?_
  have hsame : ∀ m : Moment, Tallied (m.own i) → Tallied ((m.idled i .other).own i) := by
    intro m h
    rw [Moment.own_idled]
    exact tallied_append h (tallied_same rfl)
  have hstart : Tallied ((m'.idled i .other).own i) := hsame m' (hown' ▸ hown)
  have horder₀ := horder'.stretch (Stretch.idled horder'.keeps i .other)
  refine ((horder _ horder₀).tracked (.refl i _)).mono fun x m'' hx => ?_
  obtain ⟨⟨horder'', htakes, hclosed⟩, htracked⟩ := hx
  have hlast : Tallied (m''.own i) := by
    intro kind
    rw [htakes, htracked, hstart]
  refine ⟨horder'', hsame m'' hlast, by simp [hjob], fun hclose => ?_⟩
  rw [Moment.own_idled, List.getLast?_concat]
  exact ⟨_, rfl, hclosed hclose⟩

/-- Whatever a router is asked to do, it reports. -/
theorem abides_report (job : Job) (hown : m.own i = []) :
    G.life.Abides i (job.Reports r) (job.work r) false m := by
  have htallied : Tallied (m.own i) := hown ▸ fun kind => rfl
  cases job with
  | start files defaults =>
      refine reports_discreet (.start files defaults) Outcome.routed rfl ?_ htallied
        fun m' horder => ?_
      · apply Work.discreet_bind (Work.discreet_start r.config files defaults)
        intro x
        cases x <;> exact Work.discreet_done _
      · have hstart := @Manager.secures_start (· = r.config.connection) i m' r.config files defaults
          rfl horder
        refine Secures.bind (hstart.mono fun x m'' hx => ?_)
        have hdone : ∀ m₁, InOrder (· = r.config.connection) m₁ → m₁.manager = m''.manager →
            (∀ kind, gained kind (m₁.own i) = gained kind (m''.own i)) →
              InOrder (· = r.config.connection) m₁ ∧ TakesOver i m' m₁ ∧
                (Job.start files defaults = .close → m₁.manager = { state := .closed }) := by
          intro m₁ horder₁ hmanager hgained
          refine ⟨horder₁, fun kind => ?_, by simp⟩
          rw [hgained, hmanager]
          exact takesOver_of_started hx.2 kind
        cases x <;> exact Manager.secures_done_in_order hx.1 hdone
  | publish values =>
      refine abides_publish values hown fun x own h => ⟨h.1.tallied, ?_, by simp⟩
      rintro values' ⟨⟩
      exact ⟨x, .inl rfl, h.1, h.2.2⟩
  | visit phase values =>
      by_cases hphase : r.config.executionPhase = phase
      · rw [Job.work_visit hphase]
        refine abides_publish values hown fun x own h => ⟨h.1.tallied, ?_, by simp⟩
        intro values' hvalues
        obtain rfl : values = values' := by simpa [Job.values?, hphase] using hvalues
        exact ⟨x, .inr rfl, h.1, h.2.2⟩
      · rw [Job.work_visit_other hphase]
        exact ⟨rfl, htallied, by simp [Job.values?, hphase], by simp⟩
  | state =>
      refine reports_discreet .state Outcome.state rfl ?_ htallied
        fun m' horder => ?_
      · exact Work.discreet_ask rfl fun x => Work.discreet_done _
      · refine Manager.secures_consult horder fun m₁ horder₁ hmanager₁ hgained₁ => ?_
        refine Manager.secures_done_in_order horder₁ fun m₂ horder₂ hmanager₂ hgained₂ =>
          ⟨horder₂, fun kind => ?_, by simp⟩
        rw [hgained₂, hgained₁, hmanager₂, hmanager₁, sub_self, add_zero]
  | close =>
      refine abides_raised (.inl rfl) fun _ m₁ e₁ hown₁ hsame₁ =>
        abides_raised (.inr rfl) fun _ m₂ e₂ hown₂ hsame₂ => ?_
      have htallied₁ : Tallied (m₁.own i) := hown₁ ▸ tallied_append htallied (tallied_same hsame₁)
      have htallied₂ : Tallied (m₂.own i) := hown₂ ▸ tallied_append htallied₁ (tallied_same hsame₂)
      refine reports_discreet .close (fun _ => Outcome.closed) rfl
        Work.discreet_close htallied₂ fun m' horder => ?_
      refine (Manager.secures_close horder).mono fun _ m'' hx => ?_
      refine ⟨hx.1, takesOver_of_closed hx.2, fun _ => ?_⟩
      have hstands := hx.1.stands
      have hstate := hx.2.state
      generalize m''.manager = y at hstands hstate
      cases hstands with
      | idle state h => exact congrArg (fun state => ({ state } : Manager)) hstate
      | ready => simp at hstate

end Gate

namespace Scene

variable {J α : Type} {T : Terms} {account : J → α → List Event → Prop} {work : J → Work α}
variable {s : Scene J α} {i : Nat}

/-- What all tasks did. -/
def ventures (s : Scene J α) : List Event := s.past.filter (·.task.isSome)

/-- What all tasks did adds up from what each of them did. -/
theorem sum_ventures (past : List Event) (n : Nat) (f : Event → Int)
    (h : ∀ e ∈ past, ∀ i, e.task = some i → i < n) :
    ((past.filter (·.task.isSome)).map f).sum =
      ∑ i ∈ Finset.range n, ((past.filter fun e => e.task = some i).map f).sum := by
  induction past with
  | nil => simp
  | cons e rest ih =>
      have hrest := ih fun e he => h e (List.mem_cons_of_mem _ he)
      cases htask : e.task with
      | none => simpa [htask] using hrest
      | some j =>
          have hj : j < n := h e List.mem_cons_self j htask
          have hsplit : ∀ i, (((e :: rest).filter fun e => e.task = some i).map f).sum =
              (if i = j then f e else 0) + ((rest.filter fun e => e.task = some i).map f).sum := by
            intro i
            by_cases hij : i = j
            · simp [htask, hij]
            · simp [htask, hij, Ne.symm hij]
          simp only [hsplit, Finset.sum_add_distrib, ← hrest]
          simp [htask, hj]

theorem tallied_ventures (hsound : s.Sound T account) (h : ∀ i, Tallied (s.moment.own i)) :
    Tallied s.ventures := by
  have hknown : ∀ e ∈ s.past, ∀ i, e.task = some i → i < s.schedule.tasks.length := by
    intro e he i htask
    by_contra hnew
    have hown := hsound.fresh i (Nat.le_of_not_lt hnew)
    have hmem : e ∈ s.moment.own i := List.mem_filter.mpr ⟨he, by simpa using htask⟩
    exact List.not_mem_nil (hown ▸ hmem)
  intro kind
  refine (sum_ventures s.past _ _ hknown).trans
    (Eq.trans (Finset.sum_congr rfl fun i _ => ?_) (sum_ventures s.past _ _ hknown).symm)
  exact h i kind

/-- The manager holds what the tasks have brought it. -/
def Kept (s : Scene J α) : Prop := ∀ kind, taken kind s.ventures = s.moment.manager.holding kind

theorem kept_of_acts {s' : Scene J α} (h : s.Kept) (hacts : s.Acts i s') : s'.Kept := by
  intro kind
  rcases hacts.moment with hsame | ⟨r, a, hanswered, -⟩
  · have hpast : s'.past = s.past := congrArg Moment.past hsame
    rw [ventures, hpast, hsame]
    exact h kind
  · have hpast : s'.past = _ := hanswered.past
    have hventures : s'.ventures = s.ventures ++
        [⟨some i, r.deed a, s.moment.now, s.moment.toGround, s'.moment.toGround⟩] := by
      rw [ventures, hpast, List.filter_append]
      rfl
    rw [hventures, taken_append, h kind]
    simp [taken]

theorem ventures_step {c : Choice J} (hc : ∀ i, c ≠ .act i) :
    (s.step work c).ventures = s.ventures := by
  cases c with
  | act i => exact absurd rfl (hc i)
  | operate o =>
      simp only [step]
      split
      next =>
        change List.filter _ (s.past ++ [_]) = List.filter _ s.past
        simp
      next => rfl
  | cancel i =>
      simp only [step]
      split <;> rfl
  | _ => rfl

theorem Kept.step (h : s.Kept) (hsound : s.Sound T account) (c : Choice J) :
    (s.step work c).Kept := by
  by_cases hc : ∃ i, c = .act i
  · obtain ⟨i, rfl⟩ := hc
    exact kept_of_acts h (acts_act hsound i)
  · have hothers : ∀ i, c ≠ .act i := fun i heq => hc ⟨i, heq⟩
    intro kind
    rw [ventures_step hothers, (drift_step hsound.regular hothers 0).manager]
    exact h kind

end Scene

namespace Router

variable {r : Router} {choices : List (Choice Job)} {i : Nat}

/-- In the life of a router everybody reports. -/
theorem sound_report (r : Router) (choices : List (Choice Job)) :
    (r.life choices).Sound (Gate.free r.config.admission).life (Job.Reports r) :=
  (Scene.sound_empty (T := (Gate.free r.config.admission).life)
    ⟨inOrder_empty _, once_empty⟩).run (fun job _ _ hown => Gate.abides_report job hown) choices

theorem kept_life (r : Router) (choices : List (Choice Job)) : (r.life choices).Kept := by
  induction choices using List.reverseRecOn with
  | nil => exact fun kind => rfl
  | append_singleton choices c ih =>
      rw [← life_append]
      exact ih.step (sound_report r choices) c

/-- Once everybody has come back, or left nothing open, as many handles are open as the manager
holds. -/
theorem gained_life (hover : ∀ i < (r.life choices).schedule.tasks.length,
      Tallied ((r.life choices).moment.own i)) (kind : HandleKind) :
    gained kind (r.life choices).ventures = (r.life choices).moment.manager.holding kind := by
  have htallied : Tallied (r.life choices).ventures := by
    refine Scene.tallied_ventures (sound_report r choices) fun i => ?_
    rcases Nat.lt_or_ge i (r.life choices).schedule.tasks.length with hlt | hge
    · exact hover i hlt
    · rw [(sound_report r choices).fresh i hge]
      exact fun kind => rfl
  rw [htallied kind, kept_life r choices kind]

end Router

end Sluice
