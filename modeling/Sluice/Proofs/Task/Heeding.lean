import Sluice.Proofs.Task.Lockless

/-! # Tasks that are answered as agreed

Whoever is answered as agreed does only what can come of it, and ends as agreed. Before a task is
begun it has done nothing. As long as all tasks ask only what is asked inside the lock, the signal
of their station stays as it is until somebody else raises it.
-/

namespace Sluice

/-- Whatever is answered, only what is asked inside the lock is asked. -/
def Agreement.inside : Agreement where
  may r := r.isInside = true
  answers _ _ := True

/-- Whether what was done tells a task of a signal. -/
def Deed.tells : Deed → Bool
  | .rested early => early
  | .looked down => down
  | _ => false

theorem Work.Honours.inner {α : Type} {ends : α → Prop} {w : Work α} (h : w.Honours .inside ends) :
    w.Inner true := by
  induction w with
  | done x => trivial
  | ask r next ih => exact ⟨h.1, fun a => ih a (h.2 a trivial)⟩

namespace Scene

variable {J α : Type} {work : J → Work α} {s : Scene J α} {i : Nat}

theorem state?_eq_none_iff : s.state? i = none ↔ s.schedule.tasks.length ≤ i := by
  rw [state?, Option.map_eq_none_iff, List.getElem?_eq_none_iff]

/-- No task goes away. -/
theorem length_step (work : J → Work α) (hregular : s.Regular) (c : Choice J) :
    s.schedule.tasks.length ≤ (s.step work c).schedule.tasks.length := by
  rw [← hregular.jobs, ← (hregular.placed_step work c).jobs]
  exact (jobs_step work s c).length_le

/-- Whoever does not go on does nothing more. -/
theorem own_step_of_over (work : J → Work α) (hregular : s.Regular) (h : s.goesOn i = false)
    (c : Choice J) : (s.step work c).moment.own i = s.moment.own i := by
  by_cases hact : c = .act i
  · subst hact
    rcases promise_act hregular (F := fun _ => True)
        fun state _ => TaskState.lifts_of_forall (fun _ => trivial) state with
      ⟨hsame, -⟩ | ⟨_, _, _, hgoes, -⟩
    · exact congrArg (Moment.own · i) hsame
    · simp [h] at hgoes
  · exact own_step_of_ne work hregular hact

/-- Whoever is over stays so. -/
theorem over_step (work : J → Work α) (hregular : s.Regular)
    (h : ∃ state, s.state? i = some state ∧ state.goesOn = false) (c : Choice J) :
    ∃ state, (s.step work c).state? i = some state ∧ state.goesOn = false := by
  obtain ⟨state, hstate, hover⟩ := h
  rcases state?_step_of_over work hregular hstate hover c with hsame | ⟨x, -, hnow⟩ | hnow
  · exact ⟨state, hsame, hover⟩
  · exact ⟨_, hnow, rfl⟩
  · exact ⟨_, hnow, rfl⟩

/-- What a task has done so far. -/
def deeds (s : Scene J α) (i : Nat) : List Deed := (s.moment.own i).map Event.deed

/-! ### Before a task is begun -/

/-- Whoever was not begun has done nothing. -/
def Fresh (s : Scene J α) : Prop :=
  ∀ i, s.schedule.tasks.length ≤ i → s.moment.own i = []

theorem fresh_empty : ({} : Scene J α).Fresh := fun _ _ => rfl

theorem Fresh.step (h : s.Fresh) (hregular : s.Regular) (c : Choice J) :
    (s.step work c).Fresh := by
  intro i hi
  have hbefore := Nat.le_trans (length_step work hregular c) hi
  have hgoes : s.goesOn i = false := by
    rw [goesOn, state?_eq_none_iff.mpr hbefore]
    rfl
  rw [own_step_of_over work hregular hgoes, h i hbefore]

/-! ### The signal -/

/-- Whoever asks only what is asked inside the lock leaves the signal alone. -/
theorem signal_of_answered {m m' : Moment} {r : Request} {a : r.Answer}
    (h : Answered i m r a m') (hr : r.isInside = true) : m'.signal = m.signal := by
  obtain ⟨met, hmet, rfl⟩ := h
  cases hmet with
  | shutDown => simp [Request.isInside] at hr
  | interrupt => simp [Request.isInside] at hr
  | _ => rfl

/-- Nobody inside the lock raises the signal. -/
theorem signal_step (work : J → Work α) (hregular : s.Regular)
    (hinside : s.Follows fun _ _ w => w.Honours .inside fun _ => True) {c : Choice J}
    (hc : c.isSignal = false) : (s.step work c).station.signal = s.station.signal := by
  cases c with
  | act i =>
      have hpromise : ∀ state, s.state? i = some state →
          state.Lifts (Work.Honours .inside fun _ => True) := by
        intro state hstate
        obtain ⟨job, hjob⟩ := hregular.job_of_state hstate
        exact hinside i state job hstate hjob
      rcases promise_act hregular hpromise with
        ⟨hsame, -⟩ | ⟨r, next, a, -, hhonours, -, hanswered, -⟩
      · exact congrArg Moment.signal hsame
      · exact signal_of_answered hanswered hhonours.1
  | cancel i => exact congrArg Moment.signal (moment_cancel work hregular i)
  | operate o =>
      simp only [Scene.step]
      split <;> rfl
  | interrupt => simp [Choice.isSignal] at hc
  | shutDown => simp [Choice.isSignal] at hc
  | _ => rfl

/-- What a signal that is raised from outside does to the station. -/
theorem rounds_of_signal (work : J → Work α) (hregular : s.Regular) {c : Choice J}
    (hc : c.isSignal = true) :
    (s.step work c).station.signal.rounds = s.station.signal.rounds + 1 := by
  cases c with
  | interrupt => exact congrArg (·.signal.rounds) (station_interrupt hregular.station)
  | shutDown => exact congrArg (·.signal.rounds) (station_shutDown hregular.station)
  | _ => simp [Choice.isSignal] at hc

/-- Whether a task is busy: it does not rest, or has rested long enough, and was told of no
signal. -/
def isBusy (s : Scene J α) (i : Nat) : Bool :=
  match s.state? i with
  | some (.ready (Script.ask _ _)) => !(s.deeds i).any Deed.tells
  | some (.resting deadline ticket _) =>
      !s.station.signal.endedSince ticket && decide (deadline ≤ s.schedule.now)
  | _ => false

/-- Whether the signal is raised from outside only while nobody is busy. -/
def isCalm (work : J → Work α) (s : Scene J α) : List (Choice J) → Bool
  | [] => true
  | c :: rest =>
      (!c.isSignal || (List.range s.schedule.tasks.length).all fun i => !s.isBusy i) &&
        isCalm work (s.step work c) rest

theorem isCalm_append (first second : List (Choice J)) :
    s.isCalm work (first ++ second) =
      (s.isCalm work first && (s.run work first).isCalm work second) := by
  induction first generalizing s with
  | nil => rfl
  | cons c rest ih => simp only [List.cons_append, isCalm, ih, run_cons, Bool.and_assoc]

theorem isBusy_of_isCalm {before later : List (Choice J)} {signal : Choice J}
    (h : s.isCalm work (before ++ signal :: later) = true) (hsignal : signal.isSignal = true)
    (i : Nat) : (s.run work before).isBusy i = false := by
  simp only [isCalm_append, isCalm, hsignal, Bool.and_eq_true, Bool.not_true, Bool.false_or,
    List.all_eq_true, List.mem_range] at h
  rcases Nat.lt_or_ge i (s.run work before).schedule.tasks.length with hlt | hge
  · simpa using h.2.1 i hlt
  · rw [isBusy, state?_eq_none_iff.mpr hge]

/-! ### What comes of an agreement -/

/-- A task keeps to an agreement and ends as agreed, and has done only certain things. -/
structure Heeds (A : Agreement) (ends : α → Prop) (D : Deed → Prop) (s : Scene J α) (i : Nat) :
    Prop where
  script : ∀ state, s.state? i = some state → state.Lifts (Work.Honours A ends)
  deeds : ∀ d ∈ s.deeds i, D d

namespace Heeds

variable {A : Agreement} {ends : α → Prop} {D : Deed → Prop}

theorem of_unbegun (hfresh : s.Fresh) (hi : s.schedule.tasks.length ≤ i) :
    s.Heeds A ends D i where
  script state hstate := by simp [state?_eq_none_iff.mpr hi] at hstate
  deeds d hd := by simp [Scene.deeds, hfresh i hi] at hd

/-- Whoever has come back is bound by nothing but what was agreed of the end. -/
theorem of_over {A' : Agreement} (h : s.Heeds A ends D i) (hgoes : s.goesOn i = false) :
    s.Heeds A' ends D i where
  script state hstate := by
    have hlifts := h.script state hstate
    rw [goesOn, hstate, Option.any_some] at hgoes
    cases state with
    | ready w =>
        cases w with
        | done x => exact hlifts
        | ask r next => simp [TaskState.goesOn] at hgoes
    | finished x => exact hlifts
    | cancelled => trivial
    | _ => simp [TaskState.goesOn] at hgoes
  deeds := h.deeds

theorem outcome (h : s.Heeds A ends D i) {x : α} (hx : s.outcome? i = some x) : ends x := by
  rcases state_of_outcome hx with hstate | hstate <;> exact h.script _ hstate

/-- Whoever is answered as agreed keeps to the agreement. -/
theorem step (h : s.Heeds A ends D i) (hregular : s.Regular)
    (hwork : i = s.schedule.tasks.length → ∀ job, (work job).Honours A ends)
    (hgives : ∀ r a, s.goesOn i = true → A.may r → s.Gives i r a →
      A.answers r a ∧ D (r.deed a)) (c : Choice J) : (s.step work c).Heeds A ends D i := by
  by_cases hact : c = .act i
  · subst hact
    rcases promise_act hregular h.script with
      ⟨hsame, hlifts⟩ | ⟨r, next, a, hgoes, hhonours, hanswer, hanswered, hstate⟩
    · refine ⟨hlifts, ?_⟩
      have hown : (s.step work (.act i)).deeds i = s.deeds i :=
        congrArg (fun m : Moment => (m.own i).map Event.deed) hsame
      exact hown ▸ h.deeds
    · obtain ⟨hanswers, hdeed⟩ := hgives r a hgoes hhonours.1 hanswer
      refine ⟨fun state hstate' => ?_, fun d hd => ?_⟩
      · obtain rfl := Option.some.inj (hstate.symm.trans hstate')
        exact hhonours.2 a hanswers
      · rw [Scene.deeds, Scene.step, hanswered.own, List.map_append, List.mem_append] at hd
        rcases hd with hold | hnew
        · exact h.deeds d hold
        · rwa [List.mem_singleton.mp hnew]
  · refine ⟨fun state hstate => ?_, ?_⟩
    · rcases state?_step hregular hact hstate with hsame | ⟨rfl, -⟩ | ⟨job, -, hi, rfl⟩
      · exact h.script state hsame
      · trivial
      · exact hwork hi job
    · rw [Scene.deeds, own_step_of_ne work hregular hact]
      exact h.deeds

end Heeds

end Scene

end Sluice
