import Sluice.Proofs.Task.Progress

/-! # Turns in a scene

A schedule gives turns, in which a task asks one request after another, and lets time pass when
nobody can go on. In a scene the same comes about by single acts: whatever a schedule does with
tasks at one station, up to the order of further turns, patience can do in a scene.
-/

namespace Sluice

variable {J α : Type}

namespace Schedule

/-- The requests of a task are served alike in two schedules, and the tasks of either stay as they
are. -/
inductive ServedAlike (s t : Schedule α) {r : Request} : Served α r → Served α r → Prop
  | answered (a : r.Answer) {s' t' : Schedule α} (hworld : s'.world = t'.world)
      (hnow : s'.now = t'.now) (htasks : s'.tasks = s.tasks) (htasks' : t'.tasks = t.tasks) :
      ServedAlike s t (.answered a s') (.answered a t')
  | waits (state : (r.Answer → Work α) → TaskState α) {s' t' : Schedule α}
      (hworld : s'.world = t'.world) (hnow : s'.now = t'.now) (htasks : s'.tasks = s.tasks)
      (htasks' : t'.tasks = t.tasks) : ServedAlike s t (.waits state s') (.waits state t')

/-- The order of turns has no part in what a request is answered. -/
theorem serve_alike {s t : Schedule α} (hworld : s.world = t.world) (hnow : s.now = t.now)
    (i place : Nat) (r : Request) : ServedAlike s t (s.serve i place r) (t.serve i place r) := by
  cases r with
  | interrupt =>
      obtain ⟨hs, hstasks, hsnow⟩ := s.interrupt_eq place
      obtain ⟨ht, httasks, htnow⟩ := t.interrupt_eq place
      refine .answered _ ?_ ?_ hstasks httasks
      · rw [hs, ht, hworld]
      · rw [hsnow, htnow, hnow]
  | unlock =>
      obtain ⟨hs, hstasks, hsnow⟩ := s.unlock_eq place
      obtain ⟨ht, httasks, htnow⟩ := t.unlock_eq place
      refine .answered _ ?_ ?_ hstasks httasks
      · rw [hs, ht, hworld]
      · rw [hsnow, htnow, hnow]
  | shutDownAsPlanned =>
      simp only [serve, shutDownAsPlanned, hworld]
      split
      next => exact .answered _ hworld hnow rfl rfl
      next place _ =>
        obtain ⟨hs, hstasks, hsnow⟩ := shutDown_eq
          (s.onWorld fun w => { w with plans := { w.plans with shutDown := none } }) place
        obtain ⟨ht, httasks, htnow⟩ := shutDown_eq
          (t.onWorld fun w => { w with plans := { w.plans with shutDown := none } }) place
        refine .answered _ ?_ ?_ hstasks httasks
        · rw [hs, ht, onWorld, onWorld, hworld]
        · rw [hsnow, htnow, onWorld, onWorld, hnow]
  | rest millis ticket =>
      simp only [serve, hworld, hnow]
      split
      next => exact .answered _ hworld hnow rfl rfl
      next =>
        split
        next => exact .answered _ hworld hnow rfl rfl
        next => exact .waits _ rfl rfl rfl rfl
  | lock =>
      have hsame : (s.onWorld fun w => w.modifyLock place fun l => l.join i).world =
          (t.onWorld fun w => w.modifyLock place fun l => l.join i).world := by
        rw [onWorld, onWorld, hworld]
      by_cases hholder : ((t.onWorld fun w =>
          w.modifyLock place fun l => l.join i).world.station place).lock.holder = some i
      · have hs : s.serve i place .lock =
            .answered () (s.onWorld fun w => w.modifyLock place fun l => l.join i) :=
          if_pos (hsame ▸ hholder)
        have ht : t.serve i place .lock =
            .answered () (t.onWorld fun w => w.modifyLock place fun l => l.join i) :=
          if_pos hholder
        rw [hs, ht]
        exact .answered _ hsame hnow rfl rfl
      · have hs : s.serve i place .lock =
            .waits .inLine (s.onWorld fun w => w.modifyLock place fun l => l.join i) :=
          if_neg (hsame ▸ hholder)
        have ht : t.serve i place .lock =
            .waits .inLine (t.onWorld fun w => w.modifyLock place fun l => l.join i) :=
          if_neg hholder
        rw [hs, ht]
        exact .waits _ hsame hnow rfl rfl
  | pause => exact .waits _ hworld hnow rfl rfl
  | _ =>
      simp only [serve, onWorld, hworld, hnow]
      exact .answered _ (by simp only [hworld]) (by simp only [hnow]) rfl rfl

theorem places_setState (s : Schedule α) (i : Nat) (state : TaskState α) :
    (s.setState i state).tasks.map Task.place = s.tasks.map Task.place := by
  ext1 j
  simp only [setState, List.getElem?_map, List.getElem?_modify]
  cases s.tasks[j]? with
  | none => rfl
  | some t =>
      simp only [Option.map_some]
      split <;> rfl

theorem setState_setState (s : Schedule α) (i : Nat) (state state' : TaskState α) :
    ((s.setState i state).setState i state').tasks = (s.setState i state').tasks := by
  simp only [setState, List.modify_modify_eq]
  rfl

theorem setState_congr {s t : Schedule α} (h : s.tasks = t.tasks) (i : Nat)
    (state : TaskState α) : (s.setState i state).tasks = (t.setState i state).tasks := by
  simp only [setState, h]

end Schedule

namespace Scene

variable {s s' : Scene J α} {t t' : Schedule α}

/-- A scene shows a schedule all of whose tasks are at the station, up to the order of turns. -/
structure Shows (s : Scene J α) (t : Schedule α) : Prop where
  world : s.schedule.world = t.world
  now : s.schedule.now = t.now
  tasks : s.schedule.tasks = t.tasks
  places : ∀ p ∈ t.tasks.map Task.place, p = place

theorem Shows.congr (h : s.Shows t) (hworld : t'.world = t.world) (hnow : t'.now = t.now)
    (htasks : t'.tasks = t.tasks) : s.Shows t' := by
  refine ⟨h.world.trans hworld.symm, h.now.trans hnow.symm, h.tasks.trans htasks.symm, ?_⟩
  rw [htasks]
  exact h.places

theorem Shows.place_eq (h : s.Shows t) {i : Nat} {x : Task α} (hx : t.tasks[i]? = some x) :
    x.place = place :=
  h.places x.place (List.mem_map_of_mem (List.mem_of_getElem? hx))

theorem Shows.state? (h : s.Shows t) {i : Nat} {x : Task α} (hx : t.tasks[i]? = some x) :
    s.state? i = some x.state := by
  rw [Scene.state?, h.tasks, hx]
  rfl

/-- A scene shows a schedule but for one task, which is in the middle of a turn. -/
structure Carries (i : Nat) (w : Work α) (s : Scene J α) (t : Schedule α) : Prop where
  state : s.state? i = some (.ready w)
  world : s.schedule.world = t.world
  now : s.schedule.now = t.now
  tasks : ∀ state, (s.schedule.setState i state).tasks = (t.setState i state).tasks
  places : ∀ p ∈ t.tasks.map Task.place, p = place

theorem carries_answered {i : Nat} {r : Request} {a : r.Answer} {u u' : Schedule α}
    {next : r.Answer → Work α} (hact : s.act i = s.answered i r a u next)
    (hi : (s.state? i).isSome) (hworld : u.world = u'.world) (hnow : u.now = u'.now)
    (hu : u.tasks = s.schedule.tasks)
    (htasks : ∀ state, (s.schedule.setState i state).tasks = (u'.setState i state).tasks)
    (hplaces : ∀ p ∈ u'.tasks.map Task.place, p = place) : Carries i (next a) (s.act i) u' := by
  refine ⟨ready_of_answered hact hu hi, ?_, ?_, fun state => ?_, hplaces⟩
  · rw [hact]
    exact hworld
  · rw [hact]
    exact hnow
  · rw [hact]
    change ((u.setState i _).setState i state).tasks = _
    rw [Schedule.setState_setState, Schedule.setState_congr hu, htasks]

variable (work : J → Work α)

/-- A script is carried on by as many acts as it makes requests before it has to wait. -/
theorem leads_carryOn {i : Nat} {w : Work α} (h : Carries i w s t) :
    ∃ s', Leads work s s' ∧ s'.Shows (Schedule.carryOn i place w t) := by
  induction w generalizing s t with
  | done x =>
      refine ⟨s.act i, leads_act work s i, ?_⟩
      rw [act_done h.state]
      refine ⟨h.world, h.now, h.tasks _, ?_⟩
      change ∀ p ∈ (t.setState i (.finished x)).tasks.map Task.place, p = place
      rw [Schedule.places_setState]
      exact h.places
  | ask r next ih =>
      have halike := Schedule.serve_alike h.world h.now i place r
      have hact := act_ask h.state
      unfold Schedule.carryOn
      generalize hs : s.schedule.serve i place r = served at halike
      generalize ht : t.serve i place r = served' at halike
      -- a request that is answered is one act of many; one that has to wait ends the turn
      cases halike with
      | @answered a u u' hworld hnow hu hu' =>
          rw [ask_of_answered hs] at hact
          have hcarries : Carries i (next a) (s.act i) u' := by
            refine carries_answered hact (by simp [h.state]) hworld hnow hu (fun state => ?_) ?_
            · rw [h.tasks, Schedule.setState_congr hu']
            · rw [hu']
              exact h.places
          obtain ⟨s', hleads, hshows⟩ := ih a hcarries
          exact ⟨s', (leads_act work s i).trans hleads, hshows⟩
      | @waits state u u' hworld hnow hu hu' =>
          rw [ask_of_waits hs] at hact
          refine ⟨s.act i, leads_act work s i, ?_⟩
          rw [hact]
          refine ⟨hworld, hnow, ?_, ?_⟩
          · change (u.setState i (state next)).tasks = (u'.setState i (state next)).tasks
            rw [Schedule.setState_congr hu, h.tasks, Schedule.setState_congr hu']
          · change ∀ p ∈ (u'.setState i (state next)).tasks.map Task.place, p = place
            rw [Schedule.places_setState, hu']
            exact h.places

/-- A turn of a task is a number of its acts. -/
theorem leads_turn (h : s.Shows t) (i : Nat) :
    ∃ s', Leads work s s' ∧ s'.Shows (t.turn i) := by
  -- whatever is answered at the beginning of a turn, the rest of the turn carries it on
  have hlater : ∀ {r : Request} {a : r.Answer} {u u' : Schedule α} (next : r.Answer → Work α),
      s.act i = s.answered i r a u next → (s.state? i).isSome → u.world = u'.world →
        u.now = u'.now → u.tasks = s.schedule.tasks → u'.tasks = t.tasks →
          ∃ s', Leads work s s' ∧ s'.Shows (Schedule.carryOn i place (next a) u') := by
    intro r a u u' next hact hi hworld hnow hu hu'
    have hcarries : Carries i (next a) (s.act i) u' := by
      refine carries_answered hact hi hworld hnow hu (fun state => ?_) ?_
      · exact Schedule.setState_congr (h.tasks.trans hu'.symm) i state
      · rw [hu']
        exact h.places
    obtain ⟨s', hleads, hshows⟩ := leads_carryOn work hcarries
    exact ⟨s', (leads_act work s i).trans hleads, hshows⟩
  have hstill : ∃ s', Leads work s s' ∧ s'.Shows t := ⟨s, .refl work s, h⟩
  unfold Schedule.turn
  cases hx : t.tasks[i]? with
  | none => exact hstill
  | some x =>
      have hstate := h.state? hx
      have hstation : t.world.station place = s.station :=
        congrArg (World.station · place) h.world.symm
      have hact : ∀ state, x.state = state →
          (s.schedule.tasks[i]?).map Task.state = some state :=
        fun state hcase => hcase ▸ hstate
      simp only [h.place_eq hx, hstation, ← h.now]
      cases hcase : x.state with
      | ready next =>
          refine leads_carryOn work ⟨hcase ▸ hstate, h.world, h.now, ?_, h.places⟩
          exact Schedule.setState_congr h.tasks i
      | resting deadline ticket next =>
          dsimp only
          split
          next hended =>
            refine hlater (r := .rest 0 ticket) (u := s.schedule.dropAlarm i) next ?_
              (by simp [hstate]) h.world h.now rfl rfl
            unfold act
            rw [hact _ hcase]
            exact if_pos hended
          next hnot =>
            split
            next hdeadline =>
              refine hlater (r := .rest 0 ticket) (u := s.schedule.dropAlarm i) next ?_
                (by simp [hstate]) h.world h.now rfl rfl
              unfold act
              rw [hact _ hcase]
              exact (if_neg hnot).trans (if_pos hdeadline)
            next => exact hstill
      | inLine next =>
          dsimp only
          split
          next hholder =>
            refine hlater (r := .lock) (u := s.schedule) next ?_ (by simp [hstate]) h.world h.now
              rfl rfl
            exact act_inLine (hcase ▸ hstate) hholder
          next => exact hstill
      | finished y => exact hstill
      | cancelled => exact hstill

theorem leads_serveQueue (h : s.Shows t) (fuel : Nat) :
    ∃ s', Leads work s s' ∧ s'.Shows (t.serveQueue fuel) := by
  induction fuel generalizing s t with
  | zero => exact ⟨s, .refl work s, h⟩
  | succ fuel ih =>
      unfold Schedule.serveQueue
      split
      next => exact ⟨s, .refl work s, h⟩
      next i rest _ =>
        have hrest : s.Shows { t with queue := rest } := h.congr rfl rfl rfl
        obtain ⟨s', hleads, hshows⟩ := leads_turn work hrest i
        obtain ⟨s'', hleads', hshows'⟩ := ih hshows
        exact ⟨s'', hleads.trans hleads', hshows'⟩

theorem Shows.wakeAll (h : s.Shows t) (tasks : List Nat) : s.Shows (t.wakeAll tasks) := by
  obtain ⟨hworld, htasks, hnow⟩ := t.wakeAll_eq tasks
  exact h.congr hworld hnow htasks

theorem Shows.wakePaused (h : s.Shows t) : s.Shows t.wakePaused := by
  have hnone : s.Shows { t with paused := [] } := h.congr rfl rfl rfl
  exact hnone.wakeAll _

theorem leads_passTo (h : s.Shows t) (time : Nat) :
    ∃ s', Leads work s s' ∧ s'.Shows (t.passTo time) := by
  refine ⟨_, leads_pass work s (max t.now time - t.now), ?_⟩
  refine Shows.wakeAll (t := { t with now := max t.now time }) ?_ _
  refine ⟨h.world, ?_, h.tasks, h.places⟩
  change s.schedule.now + (max t.now time - t.now) = max t.now time
  rw [h.now]
  omega

/-- Whatever a schedule does until a task is over can be done in a scene. -/
theorem leads_runUntil (h : s.Shows t) (i fuel : Nat) :
    ∃ s', Leads work s s' ∧ s'.Shows (t.runUntil i none fuel) := by
  induction fuel generalizing s t with
  | zero => exact ⟨s, .refl work s, h⟩
  | succ fuel ih =>
      have hfirst : ∃ s', Leads work s s' ∧ s'.Shows (if t.foregroundReady then
          Schedule.turn { t with foregroundReady := false } i else t) := by
        split
        next =>
          have hready : s.Shows { t with foregroundReady := false } := h.congr rfl rfl rfl
          exact leads_turn work hready i
        next => exact ⟨s, .refl work s, h⟩
      unfold Schedule.runUntil
      dsimp only
      generalize (if t.foregroundReady then
        Schedule.turn { t with foregroundReady := false } i else t) = u at hfirst
      obtain ⟨s₁, hleads₁, hshows₁⟩ := hfirst
      have hthen : ∀ {u : Schedule α}, (∃ s', Leads work s₁ s' ∧ s'.Shows u) →
          ∃ s', Leads work s s' ∧ s'.Shows u := by
        rintro u ⟨s', hleads, hshows⟩
        exact ⟨s', hleads₁.trans hleads, hshows⟩
      apply hthen
      split
      next => exact ⟨s₁, .refl work s₁, hshows₁⟩
      next =>
        obtain ⟨s₂, hleads₂, hshows₂⟩ := leads_serveQueue work hshows₁ fuel
        generalize u.serveQueue fuel = v at hshows₂
        -- what is left of the fuel is for the schedule after this round, however the round ended
        have hgoesOn : ∀ {w : Schedule α}, (∃ s', Leads work s₂ s' ∧ s'.Shows w) →
            ∃ s', Leads work s₁ s' ∧ s'.Shows (w.runUntil i none fuel) := by
          rintro w ⟨s₃, hleads₃, hshows₃⟩
          obtain ⟨s₄, hleads₄, hshows₄⟩ := ih hshows₃
          exact ⟨s₄, (hleads₂.trans hleads₃).trans hleads₄, hshows₄⟩
        rw [if_neg (by simp)]
        split
        next => exact hgoesOn ⟨s₂, .refl work s₂, hshows₂.wakePaused⟩
        next =>
          split
          next => exact hgoesOn ⟨s₂, .refl work s₂, hshows₂⟩
          next =>
            split
            next => exact ⟨s₂, hleads₂, hshows₂⟩
            next time _ => exact hgoesOn (leads_passTo work hshows₂ time)

/-- Whatever comes of a script that is carried out in the foreground can come of a task in a
scene. -/
theorem leads_perform (h : s.Shows t) (job : J) (fuel : Nat) :
    ∃ later : List (Choice J), (∀ c ∈ later, c.isPatient) ∧
      (s.run work (.begin job :: later)).Shows (t.perform fuel place (work job) none).2 ∧
        ∀ x, (t.perform fuel place (work job) none).1 = some x →
          (s.run work (.begin job :: later)).state? t.tasks.length = some (.finished x) := by
  have hbegun : (s.step work (.begin job)).Shows
      { t.add place (work job) with
        foreground := some t.tasks.length
        foregroundReady := true } := by
    refine ⟨h.world, h.now, ?_, ?_⟩
    · change s.schedule.tasks ++ _ = t.tasks ++ _
      rw [h.tasks]
    · change ∀ p ∈ (t.tasks ++ [Task.mk place (.ready (work job))]).map Task.place, p = place
      intro p hp
      rw [List.map_append, List.mem_append] at hp
      rcases hp with hold | hnew
      · exact h.places p hold
      · simpa using hnew
  obtain ⟨s', ⟨later, hpatient, rfl⟩, hshows⟩ := leads_runUntil work hbegun t.tasks.length fuel
  refine ⟨later, hpatient, hshows.congr rfl rfl rfl, fun x hx => ?_⟩
  change Schedule.result? _ _ = some x at hx
  unfold Schedule.result? at hx
  rw [run_cons, state?, hshows.tasks]
  split at hx
  next y hfinished =>
    obtain rfl := Option.some.inj hx
    exact hfinished
  next => simp at hx

end Scene

end Sluice
