import Sluice.Proofs.Task.Sound

/-! # Whoever is patient gets done

If time passes and everybody goes on who can, then every task that was not stopped gets done: a
script is finite, a rest is over when its time has come, and whoever holds the lock gives it back to
the next in line.
-/

namespace Sluice

/-- Whether nothing happens but that a task goes on or time passes. -/
def Choice.isPatient {J : Type} : Choice J → Bool
  | .act _ => true
  | .pass _ => true
  | _ => false

namespace Scene

variable {J α : Type} {T : Terms} {account : J → α → List Event → Prop} {work : J → Work α}
variable {s s' s'' : Scene J α} {i j : Nat}

/-- How a task stands, if there is one. -/
def state? (s : Scene J α) (i : Nat) : Option (TaskState α) := (s.schedule.tasks[i]?).map Task.state

/-- A scene to which patience leads. -/
def Leads (work : J → Work α) (s s' : Scene J α) : Prop :=
  ∃ choices : List (Choice J), (∀ c ∈ choices, c.isPatient) ∧ s.run work choices = s'

theorem Leads.refl (work : J → Work α) (s : Scene J α) : Leads work s s := ⟨[], by simp, rfl⟩

theorem Leads.trans (h : Leads work s s') (h' : Leads work s' s'') : Leads work s s'' := by
  obtain ⟨first, hfirst, rfl⟩ := h
  obtain ⟨second, hsecond, rfl⟩ := h'
  refine ⟨first ++ second, fun c hc => ?_, run_append work s first second⟩
  rcases List.mem_append.mp hc with hc | hc
  · exact hfirst c hc
  · exact hsecond c hc

variable (work)

theorem leads_act (s : Scene J α) (i : Nat) : Leads work s (s.act i) :=
  ⟨[.act i], by simp [Choice.isPatient], rfl⟩

theorem leads_pass (s : Scene J α) (millis : Nat) :
    Leads work s (s.step work (.pass millis)) :=
  ⟨[.pass millis], by simp [Choice.isPatient], rfl⟩

/-- A task went on by itself: nothing else was moved, and the lock is as it was. -/
structure Solo (i : Nat) (s s' : Scene J α) : Prop where
  lock : s'.station.lock = s.station.lock
  others : ∀ j, j ≠ i → s'.state? j = s.state? j

theorem Solo.trans (h : Solo i s s') (h' : Solo i s' s'') : Solo i s s'' :=
  ⟨h'.lock.trans h.lock, fun j hj => (h'.others j hj).trans (h.others j hj)⟩

theorem state?_setState {u : Schedule α} (htasks : u.tasks = s.schedule.tasks)
    (state : TaskState α) (hi : (s.state? i).isSome) (j : Nat) :
    ((u.setState i state).tasks[j]?).map Task.state =
      if j = i then some state else s.state? j := by
  simp only [Schedule.setState, htasks]
  by_cases hij : i = j
  · subst hij
    rw [List.getElem?_modify_eq, if_pos rfl]
    simp only [state?, Option.isSome_map] at hi
    obtain ⟨t, ht⟩ := Option.isSome_iff_exists.mp hi
    rw [ht]
    rfl
  · rw [List.getElem?_modify_ne _ _ hij, if_neg fun heq => hij heq.symm]
    rfl

theorem state?_answered {r : Request} {a : r.Answer} {u : Schedule α} {next : r.Answer → Work α}
    (htasks : u.tasks = s.schedule.tasks) (hi : (s.state? i).isSome) (j : Nat) :
    (s.answered i r a u next).state? j = if j = i then some (.ready (next a)) else s.state? j :=
  state?_setState htasks _ hi j

theorem ready_of_answered {r : Request} {a : r.Answer} {u : Schedule α}
    {next : r.Answer → Work α} (h : s' = s.answered i r a u next)
    (htasks : u.tasks = s.schedule.tasks) (hi : (s.state? i).isSome) :
    s'.state? i = some (.ready (next a)) := by
  rw [h, state?_answered htasks hi, if_pos rfl]

theorem solo_answered {r : Request} {a : r.Answer} {u : Schedule α} {next : r.Answer → Work α}
    (htasks : u.tasks = s.schedule.tasks) (hlock : (u.world.station place).lock = s.station.lock)
    (hi : (s.state? i).isSome) : Solo i s (s.answered i r a u next) := by
  refine ⟨hlock, fun j hj => ?_⟩
  rw [state?_answered htasks hi, if_neg hj]

theorem act_done {x : α} (hstate : s.state? i = some (.ready (Script.done x))) :
    s.act i = { s with schedule := s.schedule.setState i (.finished x) } := by
  unfold act
  rw [← state?, hstate]

theorem act_ask {r : Request} {next : r.Answer → Work α}
    (hstate : s.state? i = some (.ready (Script.ask r next))) : s.act i = s.ask i r next := by
  unfold act
  rw [← state?, hstate]

theorem act_resting {deadline : Nat} {ticket : Option Nat} {next : Bool → Work α}
    (hstate : s.state? i = some (.resting deadline ticket next))
    (hdeadline : deadline ≤ s.schedule.now) :
    ∃ early, s.act i = s.answered i (.rest 0 ticket) early (s.schedule.dropAlarm i) next := by
  unfold act
  rw [← state?, hstate]
  simp only [if_pos hdeadline]
  split
  · exact ⟨true, rfl⟩
  · exact ⟨false, rfl⟩

theorem act_inLine {next : Unit → Work α} (hstate : s.state? i = some (.inLine next))
    (hholder : s.station.lock.holder = some i) :
    s.act i = s.answered i .lock () s.schedule next := by
  unfold act
  rw [← state?, hstate]
  exact if_pos hholder

theorem Sound.step_pass (h : s.Sound T account) (millis : Nat) :
    (s.step work (.pass millis)).Sound T account :=
  h.beside_step s.station.signal rfl rfl rfl rfl rfl (Nat.le_add_right _ _) (.refl _)

/-- A rest is over when its time has come. -/
theorem leads_resting (h : s.Sound T account) {deadline : Nat} {ticket : Option Nat}
    {next : Bool → Work α} (hstate : s.state? i = some (.resting deadline ticket next)) :
    ∃ s' early, Leads work s s' ∧ s'.Sound T account ∧ Solo i s s' ∧
      s'.state? i = some (.ready (next early)) := by
  have hpassed : (s.step work (.pass deadline)).Sound T account := h.step_pass work deadline
  have hleads := leads_pass work s deadline
  have hsolo : Solo i s (s.step work (.pass deadline)) := ⟨rfl, fun _ _ => rfl⟩
  have hstate' : (s.step work (.pass deadline)).state? i = some (.resting deadline ticket next) :=
    hstate
  have hdeadline : deadline ≤ (s.step work (.pass deadline)).schedule.now := Nat.le_add_left _ _
  generalize s.step work (.pass deadline) = later at *
  obtain ⟨early, hact⟩ := act_resting hstate' hdeadline
  have hi : (later.state? i).isSome := by simp [hstate']
  have hdrop : (later.schedule.dropAlarm i).tasks = later.schedule.tasks := rfl
  refine ⟨later.act i, early, hleads.trans (leads_act work later i), hpassed.act i, ?_, ?_⟩
  · rw [hact]
    exact hsolo.trans (solo_answered hdrop rfl hi)
  · exact ready_of_answered hact hdrop hi

/-- Who need not wait for the lock goes on. -/
theorem leads_ask (h : s.Sound T account) {r : Request} {next : r.Answer → Work α}
    (hr : r.isInside = true ∨ r = .shutDown ∨ r = .interrupt)
    (hstate : s.state? i = some (.ready (Script.ask r next))) :
    ∃ s' a, Leads work s s' ∧ s'.Sound T account ∧ Solo i s s' ∧
      s'.state? i = some (.ready (next a)) := by
  have hi : (s.state? i).isSome := by simp [hstate]
  have hleads := leads_act work s i
  have hsound := h.act i
  have hact := act_ask hstate
  cases hrest : r.isRest with
  | false =>
      obtain ⟨a, u, hserves⟩ := serves_inside h.station i hr hrest
      rw [ask_of_answered hserves.serve] at hact
      refine ⟨s.act i, a, hleads, hsound, ?_, ?_⟩
      · rw [hact]
        exact solo_answered hserves.tasks hserves.lock hi
      · exact ready_of_answered hact hserves.tasks hi
  | true =>
      cases r with
      | rest millis ticket =>
          have hanswered : ∀ early,
              s.act i = s.answered i (.rest millis ticket) early s.schedule next →
              ∃ s' a, Leads work s s' ∧ s'.Sound T account ∧ Solo i s s' ∧
                s'.state? i = some (.ready (next a)) := by
            intro early hact
            refine ⟨s.act i, early, hleads, hsound, ?_, ?_⟩
            · rw [hact]
              exact solo_answered rfl rfl hi
            · exact ready_of_answered hact rfl hi
          by_cases hended : s.station.signal.endedSince ticket
          · have hserve := Schedule.serve_rest_early i place millis hended
            exact hanswered true (hact.trans (ask_of_answered hserve next))
          · by_cases hzero : millis = 0
            · subst hzero
              have hserve := Schedule.serve_rest_zero i place hended
              exact hanswered false (hact.trans (ask_of_answered hserve next))
            · rw [ask_of_waits (Schedule.serve_rest_waits i place hended hzero)] at hact
              have hsolo : Solo i s (s.act i) := by
                rw [hact]
                refine ⟨rfl, fun j hj => ?_⟩
                exact (state?_setState rfl _ hi j).trans (if_neg hj)
              have hrests : (s.act i).state? i =
                  some (.resting (s.schedule.now + millis) ticket next) := by
                rw [hact]
                exact (state?_setState rfl _ hi i).trans (if_pos rfl)
              obtain ⟨s', early, hleads', hsound', hsolo', hstate'⟩ :=
                leads_resting work hsound hrests
              exact ⟨s', early, hleads.trans hleads', hsound', hsolo.trans hsolo', hstate'⟩
      | _ => simp [Request.isRest] at hrest

/-- A task gave the lock back: it was passed on, and nothing else was moved. -/
structure Passes (i : Nat) (s s' : Scene J α) : Prop where
  lock : s'.station.lock = s.station.lock.pass
  others : ∀ j, j ≠ i → s'.state? j = s.state? j

theorem Solo.passes (h : Solo i s s') (h' : Passes i s' s'') : Passes i s s'' :=
  ⟨h'.lock.trans (congrArg Lock.pass h.lock), fun j hj => (h'.others j hj).trans (h.others j hj)⟩

theorem leads_unlock (h : s.Sound T account) {next : Request.unlock.Answer → Work α}
    (hstate : s.state? i = some (.ready (Script.ask .unlock next))) :
    ∃ s', Leads work s s' ∧ s'.Sound T account ∧ Passes i s s' ∧
      s'.state? i = some (.ready (next ())) := by
  have hi : (s.state? i).isSome := by simp [hstate]
  have hserve : s.schedule.serve i place .unlock = .answered () (s.schedule.unlock place) := rfl
  have hact := (act_ask hstate).trans (ask_of_answered hserve next)
  have htasks := (s.schedule.unlock_eq place).2.1
  refine ⟨s.act i, leads_act work s i, h.act i, ?_, ?_⟩
  · rw [hact]
    refine ⟨congrArg Station.lock (station_unlock h.station), fun j hj => ?_⟩
    exact (state?_answered htasks hi j).trans (if_neg hj)
  · exact ready_of_answered hact htasks hi

theorem Sound.standing (h : s.Sound T account) {state : TaskState α}
    (hstate : s.state? i = some state) :
    ∃ job, T.Stands (account job) i (s.holds i) s.moment state := by
  obtain ⟨t, ht, rfl⟩ := Option.map_eq_some_iff.mp hstate
  obtain ⟨job, hjob⟩ := h.job ht
  exact ⟨job, h.stands i t job ht hjob⟩

theorem Sound.job_of_state (h : s.Sound T account) {state : TaskState α}
    (hstate : s.state? i = some state) : ∃ job, s.jobs[i]? = some job := by
  obtain ⟨t, ht, -⟩ := Option.map_eq_some_iff.mp hstate
  exact h.job ht

/-- Whoever holds the lock and goes on gives it back. -/
theorem leads_ready (h : s.Sound T account) {w : Work α} (hstate : s.state? i = some (.ready w))
    (hholder : s.station.lock.holder = some i) :
    ∃ s', Leads work s s' ∧ s'.Sound T account ∧ Passes i s s' := by
  -- on the script: it is finite, and cannot end as long as the lock is held
  induction w generalizing s with
  | done x =>
      obtain ⟨job, hstands⟩ := h.standing hstate
      have hin : s.holds i = true := decide_eq_true hholder
      exact absurd (hstands.1.symm.trans hin) (by simp)
  | ask r next ih =>
      obtain ⟨job, hstands⟩ := h.standing hstate
      rw [holds, decide_eq_true hholder] at hstands
      have hallowed : r.isAllowed true = true := hstands.1
      by_cases hunlock : r = .unlock
      · subst hunlock
        obtain ⟨s', hleads, hsound, hpasses, -⟩ := leads_unlock work h hstate
        exact ⟨s', hleads, hsound, hpasses⟩
      · have hinside : r.isInside = true := by
          cases r <;> simp_all [Request.isAllowed]
        obtain ⟨s', a, hleads, hsound, hsolo, hstate'⟩ := leads_ask work h (.inl hinside) hstate
        have hholder' : s'.station.lock.holder = some i := by
          rw [hsolo.lock]
          exact hholder
        obtain ⟨s'', hleads', hsound', hpasses⟩ := ih a hsound hstate' hholder'
        exact ⟨s'', hleads.trans hleads', hsound', hsolo.passes hpasses⟩

/-- Whoever holds the lock gives it back. -/
theorem leads_passes (h : s.Sound T account) (hholder : s.station.lock.holder = some i) :
    ∃ s', Leads work s s' ∧ s'.Sound T account ∧ Passes i s s' := by
  have hin : s.holds i = true := decide_eq_true hholder
  have ht := List.getElem?_eq_getElem (h.holder i hholder)
  obtain ⟨state, hstate⟩ : ∃ state, s.state? i = some state :=
    ⟨_, by rw [state?, ht, Option.map_some]⟩
  have hi : (s.state? i).isSome := by simp [hstate]
  obtain ⟨job, hstands⟩ := h.standing hstate
  cases state with
  | ready w => exact leads_ready work h hstate hholder
  | resting deadline ticket next =>
      obtain ⟨s', early, hleads, hsound, hsolo, hstate'⟩ := leads_resting work h hstate
      have hholder' : s'.station.lock.holder = some i := by
        rw [hsolo.lock]
        exact hholder
      obtain ⟨s'', hleads', hsound', hpasses⟩ := leads_ready work hsound hstate' hholder'
      exact ⟨s'', hleads.trans hleads', hsound', hsolo.passes hpasses⟩
  | inLine next =>
      have hact := act_inLine hstate hholder
      have hsolo : Solo i s (s.act i) := by
        rw [hact]
        exact solo_answered rfl rfl hi
      have hstate' : (s.act i).state? i = some (.ready (next ())) :=
        ready_of_answered hact rfl hi
      have hholder' : (s.act i).station.lock.holder = some i := by
        rw [hsolo.lock]
        exact hholder
      obtain ⟨s', hleads, hsound, hpasses⟩ := leads_ready work (h.act i) hstate' hholder'
      exact ⟨s', (leads_act work s i).trans hleads, hsound, hsolo.passes hpasses⟩
  | finished x => exact absurd (hstands.1.symm.trans hin) (by simp)
  | cancelled => exact absurd (hstands.symm.trans hin) (by simp)

/-- The line moves on. -/
theorem passed_over (h : s.Sound T account) {n : Nat} (hn : s.station.lock.line[n]? = some i) :
    ∃ j s', Leads work s s' ∧ s'.Sound T account ∧ Passes j s s' ∧ i ≠ j := by
  have hmem := List.mem_of_getElem? hn
  cases hholder : s.station.lock.holder with
  | none => simp [h.orderly.free hholder] at hmem
  | some j =>
      obtain ⟨s', hleads, hsound, hpasses⟩ := leads_passes work h hholder
      exact ⟨j, s', hleads, hsound, hpasses, fun heq => h.orderly.apart j hholder (heq ▸ hmem)⟩

/-- Whoever stands in line gets the lock. -/
theorem leads_granted (h : s.Sound T account) {n : Nat} (hn : s.station.lock.line[n]? = some i) :
    ∃ s', Leads work s s' ∧ s'.Sound T account ∧ s'.station.lock.holder = some i ∧
      s'.state? i = s.state? i := by
  -- on the place in the line, which moves up each time the lock is passed on
  induction n generalizing s with
  | zero =>
      obtain ⟨j, s', hleads, hsound, hpasses, hij⟩ := passed_over work h hn
      refine ⟨s', hleads, hsound, ?_, hpasses.others i hij⟩
      rw [hpasses.lock, Lock.pass, List.head?_eq_getElem?, hn]
  | succ n ih =>
      obtain ⟨j, s', hleads, hsound, hpasses, hij⟩ := passed_over work h hn
      have hn' : s'.station.lock.line[n]? = some i := by
        rw [hpasses.lock, Lock.pass, List.getElem?_tail, hn]
      obtain ⟨s'', hleads', hsound', hholder, hstate⟩ := ih hsound hn'
      exact ⟨s'', hleads.trans hleads', hsound', hholder, hstate.trans (hpasses.others i hij)⟩

/-- Whoever wants the lock gets it. -/
theorem leads_lock (h : s.Sound T account) {next : Request.lock.Answer → Work α}
    (hstate : s.state? i = some (.ready (Script.ask .lock next))) (hout : s.holds i = false) :
    ∃ s', Leads work s s' ∧ s'.Sound T account ∧ s'.state? i = some (.ready (next ())) := by
  have hi : (s.state? i).isSome := by simp [hstate]
  have hact := act_ask hstate
  have hleads := leads_act work s i
  have hstation := station_modifyLock h.station fun l => l.join i
  have htasks : (s.schedule.onWorld fun w => w.modifyLock place fun l => l.join i).tasks =
      s.schedule.tasks := rfl
  cases hholder : s.station.lock.holder with
  | none =>
      rw [ask_of_answered (serve_lock_free h.station i hholder)] at hact
      exact ⟨s.act i, hleads, h.act i,
        ready_of_answered hact htasks hi⟩
  | some j =>
      have hij : j ≠ i := by
        intro heq
        simp [holds, hholder, heq] at hout
      rw [ask_of_waits (serve_lock_taken h.station hholder hij)] at hact
      have hwaits : (s.act i).state? i = some (.inLine next) := by
        rw [hact]
        exact (state?_setState rfl _ hi i).trans (if_pos rfl)
      have hlock : (s.act i).station.lock = s.station.lock.join i := by
        rw [hact]
        exact congrArg Station.lock hstation
      have hn : (s.act i).station.lock.line[s.station.lock.line.length]? = some i := by
        rw [hlock, Lock.join_of_taken hholder]
        simp
      obtain ⟨s', hleads', hsound, hholder', hstate'⟩ := leads_granted work (h.act i) hn
      rw [hwaits] at hstate'
      have hi' : (s'.state? i).isSome := by simp [hstate']
      have hact' := act_inLine hstate' hholder'
      refine ⟨s'.act i, (hleads.trans hleads').trans (leads_act work s' i), hsound.act i, ?_⟩
      exact ready_of_answered hact' rfl hi'

theorem leads_done (h : s.Sound T account) {w : Work α} (hstate : s.state? i = some (.ready w)) :
    ∃ s', Leads work s s' ∧ ∃ x, s'.state? i = some (.finished x) := by
  -- on what is left to be done; whoever asks for the lock comes to it behind the others
  induction w generalizing s with
  | done x =>
      have hi : (s.state? i).isSome := by simp [hstate]
      refine ⟨s.act i, leads_act work s i, x, ?_⟩
      rw [act_done hstate]
      exact (state?_setState rfl _ hi i).trans (if_pos rfl)
  | ask r next ih =>
      obtain ⟨job, hstands⟩ := h.standing hstate
      have hon : ∀ s' a, Leads work s s' → s'.Sound T account →
          s'.state? i = some (.ready (next a)) →
            ∃ s', Leads work s s' ∧ ∃ x, s'.state? i = some (.finished x) := by
        intro s' a hleads hsound hstate'
        obtain ⟨s'', hleads', hdone⟩ := ih a hsound hstate'
        exact ⟨s'', hleads.trans hleads', hdone⟩
      cases hholds : s.holds i with
      | true =>
          rw [hholds] at hstands
          have hallowed : r.isAllowed true = true := hstands.1
          by_cases hunlock : r = .unlock
          · subst hunlock
            obtain ⟨s', hleads, hsound, -, hstate'⟩ := leads_unlock work h hstate
            exact hon s' () hleads hsound hstate'
          · have hinside : r.isInside = true := by
              cases r <;> simp_all [Request.isAllowed]
            obtain ⟨s', a, hleads, hsound, -, hstate'⟩ := leads_ask work h (.inl hinside)
              hstate
            exact hon s' a hleads hsound hstate'
      | false =>
          rw [hholds] at hstands
          have hallowed : r.isAllowed false = true := hstands.1
          by_cases hlock : r = .lock
          · subst hlock
            obtain ⟨s', hleads, hsound, hstate'⟩ := leads_lock work h hstate hholds
            exact hon s' () hleads hsound hstate'
          · have hraised : r = .shutDown ∨ r = .interrupt := by
              cases r <;> simp_all [Request.isAllowed]
            obtain ⟨s', a, hleads, hsound, -, hstate'⟩ := leads_ask work h (.inr hraised)
              hstate
            exact hon s' a hleads hsound hstate'

/-- Every task that was begun and not stopped gets done if everybody is patient. -/
theorem Sound.leads_finished (h : s.Sound T account) {job : J} (hjob : s.jobs[i]? = some job)
    (hgoes : s.state? i ≠ some .cancelled) :
    ∃ s', Leads work s s' ∧ ∃ x, s'.state? i = some (.finished x) := by
  have hlt : i < s.schedule.tasks.length := by
    rw [← h.jobs]
    exact (List.getElem?_eq_some_iff.mp hjob).1
  obtain ⟨state, hstate⟩ : ∃ state, s.state? i = some state :=
    ⟨_, by rw [state?, List.getElem?_eq_getElem hlt, Option.map_some]⟩
  cases state with
  | ready w => exact leads_done work h hstate
  | resting deadline ticket next =>
      obtain ⟨s', early, hleads, hsound, -, hstate'⟩ := leads_resting work h hstate
      obtain ⟨s'', hleads', hdone⟩ := leads_done work hsound hstate'
      exact ⟨s'', hleads.trans hleads', hdone⟩
  | inLine next =>
      obtain ⟨s', hleads, hsound, hholder, hstate'⟩ :
          ∃ s', Leads work s s' ∧ s'.Sound T account ∧ s'.station.lock.holder = some i ∧
            s'.state? i = s.state? i := by
        obtain ⟨t, ht, hinLine⟩ := Option.map_eq_some_iff.mp hstate
        rcases h.waits i t next ht hinLine with hholder | hmem
        · exact ⟨s, .refl work s, h, hholder, rfl⟩
        · obtain ⟨n, hn⟩ := List.mem_iff_getElem?.mp hmem
          exact leads_granted work h hn
      rw [hstate] at hstate'
      have hi' : (s'.state? i).isSome := by simp [hstate']
      have hact := Scene.act_inLine hstate' hholder
      have hready : (s'.act i).state? i = some (.ready (next ())) :=
        ready_of_answered hact rfl hi'
      obtain ⟨s'', hleads', hdone⟩ := leads_done work (hsound.act i) hready
      exact ⟨s'', (hleads.trans (leads_act work s' i)).trans hleads', hdone⟩
  | finished x => exact ⟨s, .refl work s, x, hstate⟩
  | cancelled => exact absurd hstate hgoes

end Scene

end Sluice
