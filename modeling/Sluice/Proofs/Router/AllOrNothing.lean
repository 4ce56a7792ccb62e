import Sluice.Proofs.Router.Life
import Sluice.Proofs.Task.Turns

/-! # Publishing is all or nothing

A router works at its station among others, who use the same broker, bind names, arm faults, stop
tasks, and let time pass. Every publishing that comes to an end has either sent one message or none,
and every publishing comes to an end if everybody is patient.
-/

namespace Sluice

/-- Every task was let through at most once. -/
def Moment.Once (m : Moment) : Prop := ∀ i, (m.own i).countP (·.deed.letsThrough) ≤ 1

namespace Moment.Once

variable {m m' : Moment}

theorem grown (h : m.Once) {events : List Event} (hpast : m'.past = m.past ++ events)
    (hnone : ∀ e ∈ events, ∀ i, e.task = some i → e.deed.letsThrough = false) : m'.Once := by
  intro i
  have hzero : (events.filter fun e => e.task = some i).countP (·.deed.letsThrough) = 0 := by
    rw [List.countP_eq_zero]
    intro e he
    rw [List.mem_filter, decide_eq_true_eq] at he
    simp [hnone e he.1 i he.2]
  rw [own, hpast, List.filter_append, List.countP_append, hzero]
  exact h i

theorem quiet : Quiet Once where
  stable i m m' hshift h := by
    cases hshift with
    | beside now signal events hnow hsignal hevents =>
        apply h.grown rfl
        intro e he _ _
        rw [(hevents e he).2.2]
        rfl
    | operated o huses => exact h.grown rfl (by simp)
  idled m i d hd h := by
    apply h.grown rfl
    intro e he _ _
    rw [List.mem_singleton.mp he]
    exact hd
  called m i c reply b hperform hsent h := h.grown rfl (by simp [Deed.letsThrough])

theorem ended (h : m.Once) {i : Nat} (hnone : (m.own i).countP (·.deed.letsThrough) = 0)
    (d : Deed) : (m.idled i d).Once := by
  intro j
  rw [idled, own_note]
  -- the one task that is let through now had not been let through before
  by_cases hij : some i = some j
  · obtain rfl := Option.some.inj hij
    rw [if_pos rfl, List.countP_append, hnone, Nat.zero_add]
    exact List.countP_le_length
  · rw [if_neg hij, List.append_nil]
    exact h j

end Moment.Once

/-- A gate that lets nobody through twice, and at which nobody rests who has not found a queue. -/
def Gate.free (admission : AdmissionConfig) : Gate admission where
  safe := Moment.Once
  calm := Moment.Once
  resting own := ∃ e ∈ own, ∃ held, e.before.manager.resources = some held ∧
    e.Finds held.destination .queue
  safe_of_calm _ h := h
  calm_stable := Moment.Once.quiet.stable
  permit _ := Moment.Once
  ticket _ := True
  calm_of_permit _ _ h := h
  quiet_calm := Moment.Once.quiet
  quiet_permit _ := Moment.Once.quiet
  calm_kept _ _ _ h := h.grown rfl (by simp [Deed.letsThrough])
  permit_disabled _ _ _ h := h
  ticket_of_calm _ _ := trivial
  permit_ended _ _ _ d _ hnone _ h := h.ended hnone d
  permit_topic _ _ _ h := h
  permit_below _ _ _ h := h
  calm_sent _ _ _ _ _ _ _ _ _ _ h := h.grown rfl (by simp [Deed.letsThrough])
  resting_inspected _ held := fun ⟨e, he, hheld, hfinds⟩ => ⟨e, he, held, hheld, hfinds⟩

namespace Router

/-- The life of a router, from the beginning. -/
def life (r : Router) (choices : List (Choice Job)) : Life :=
  ({} : Life).run (Job.work r) choices

variable {r : Router} {G : Gate r.config.admission}

theorem once_empty : ({} : Life).moment.Once := fun _ => Nat.zero_le 1

theorem inOrder_empty (fits : ConnectionSettings → Prop) : InOrder fits ({} : Life).moment :=
  ⟨Broker.keeps_new, .idle .uninitialized (.inl rfl)⟩

/-- Whatever is chosen, the terms of a router are kept. -/
theorem sound_life (h : G.calm ({} : Life).moment) (choices : List (Choice Job)) :
    (r.life choices).Sound G.life (Job.account r) :=
  (Scene.sound_empty (T := G.life) ⟨inOrder_empty _, h⟩).run
    (fun job _ _ hown => Gate.abides_work job hown) choices

/-- Patience begins nothing. -/
theorem jobs_patient {s : Life} {choices : List (Choice Job)}
    (h : ∀ c ∈ choices, c.isPatient) : (s.run (Job.work r) choices).jobs = s.jobs := by
  induction choices generalizing s with
  | nil => rfl
  | cons c rest ih =>
      rw [Scene.run_cons, ih fun c hc => h c (List.mem_cons_of_mem _ hc)]
      have hc := h c List.mem_cons_self
      cases c with
      | act i => exact Scene.jobs_act s i
      | pass millis => rfl
      | _ => simp [Choice.isPatient] at hc

/-- What a publishing that came to an end has done. -/
theorem account_of_finished {choices : List (Choice Job)} {i : Nat} {values : Context}
    (hjob : (r.life choices).jobs[i]? = some (.publish values)) {outcome : Outcome}
    (hstate : (r.life choices).state? i = some (.finished outcome)) :
    ∃ x, outcome = .routed x ∧ Account r values ((r.life choices).moment.own i) x := by
  have hsound := sound_life (G := .free r.config.admission) once_empty choices
  obtain ⟨t, ht, hfinished⟩ := Option.map_eq_some_iff.mp hstate
  have haccount := hsound.accounted ht hjob hfinished
  cases outcome with
  | routed x => exact ⟨x, rfl, haccount.1⟩
  | _ => exact haccount.elim

/-- A schedule that carries out a publishing in the foreground goes on as a life of the router, and
the publishing has done in it what any other has. -/
theorem account_of_perform {choices : List (Choice Job)} {t : Schedule Outcome}
    (hshows : (r.life choices).Shows t) (values : Context) (fuel : Nat) {outcome : Outcome}
    (hperform : (t.perform fuel Scene.place (Job.work r (.publish values)) none).1 =
      some outcome) :
    ∃ later x, outcome = .routed x ∧ (r.life (choices ++ later)).Shows
        (t.perform fuel Scene.place (Job.work r (.publish values)) none).2 ∧
      Account r values ((r.life (choices ++ later)).moment.own t.tasks.length) x := by
  obtain ⟨later, hpatient, hlater, hfinished⟩ :=
    Scene.leads_perform (Job.work r) hshows (.publish values) fuel
  have hlife : (r.life choices).run (Job.work r) (.begin (.publish values) :: later) =
      r.life (choices ++ .begin (.publish values) :: later) := (Scene.run_append _ _ _ _).symm
  have hstate := hfinished outcome hperform
  have hjobs := (sound_life (G := .free r.config.admission) once_empty choices).jobs
  have hjob : (r.life (choices ++ .begin (.publish values) :: later)).jobs[t.tasks.length]? =
      some (.publish values) := by
    rw [← hlife, Scene.run_cons, jobs_patient hpatient, ← hshows.tasks, ← hjobs]
    exact List.getElem?_concat_length
  rw [hlife] at hlater hstate
  obtain ⟨x, rfl, haccount⟩ := account_of_finished hjob hstate
  exact ⟨_, x, rfl, hlater, haccount⟩

/-- One call to publish sends exactly one message, which carries its values with the configured
delivery settings, or fails and sends none; either way it leaves nothing behind, and changes nothing
but its destination and the fault that it reports. It returns if everybody is patient. -/
theorem publish_all_or_nothing (r : Router) (choices : List (Choice Job)) {i : Nat}
    {values : Context} (hjob : (r.life choices).jobs[i]? = some (.publish values)) :
    (∀ outcome, (r.life choices).state? i = some (.finished outcome) →
        ∃ x, outcome = .routed x ∧ Account r values ((r.life choices).moment.own i) x) ∧
      ((r.life choices).state? i ≠ some .cancelled → ∃ later, (∀ c ∈ later, c.isPatient) ∧
        ∃ x, (r.life (choices ++ later)).state? i = some (.finished (.routed x)) ∧
          Account r values ((r.life (choices ++ later)).moment.own i) x) := by
  refine ⟨fun outcome hstate => account_of_finished hjob hstate, fun hgoes => ?_⟩
  have hsound := sound_life (G := .free r.config.admission) once_empty choices
  obtain ⟨_, ⟨later, hpatient, rfl⟩, outcome, hfinished⟩ :=
    hsound.leads_finished (Job.work r) hjob hgoes
  have hlife : (r.life choices).run (Job.work r) later = r.life (choices ++ later) :=
    (Scene.run_append _ _ _ _).symm
  have hjob' : (r.life (choices ++ later)).jobs[i]? = some (.publish values) := by
    rw [← hlife, jobs_patient hpatient, hjob]
  rw [hlife] at hfinished
  obtain ⟨x, rfl, haccount⟩ := account_of_finished hjob' hfinished
  exact ⟨later, hpatient, x, hfinished, haccount⟩

/-- A router that publishes a text to a queue, in a transaction. -/
def transactedRouter : Router where
  config := { destinationName := some "orders", connection := { transacted := true } }
  valueKey := "order"
  destinationName := "orders"
  encoder _ _ := .ok (.text "first")
  assigner := .disabled

/-- The router is started and publishes once. -/
def publishedOnce : List (Choice Job) :=
  [.bind (Keyed.ofList
      [("orders", .destination (.queue "orders")), ("ConnectionFactory", .connectionFactory)]),
    .begin (.start (fun _ => .error .missing) Keyed.empty)] ++ List.replicate 13 (.act 0) ++
    [.begin (.publish Keyed.empty)] ++ List.replicate 14 (.act 1)

set_option maxRecDepth 4000 in
theorem publish_all_or_nothing_once :
    (transactedRouter.life publishedOnce).jobs[1]? = some (.publish Keyed.empty) ∧
      (transactedRouter.life publishedOnce).state? 1 = some (.finished (.routed (.ok ()))) ∧
      Account transactedRouter Keyed.empty ((transactedRouter.life publishedOnce).moment.own 1)
        (.ok ()) := by
  have hjob : (transactedRouter.life publishedOnce).jobs[1]? = some (.publish Keyed.empty) := rfl
  have hstate : (transactedRouter.life publishedOnce).state? 1 =
      some (.finished (.routed (.ok ()))) := rfl
  obtain ⟨x, hx, haccount⟩ :=
    (publish_all_or_nothing transactedRouter publishedOnce hjob).1 _ hstate
  obtain rfl := Outcome.routed.inj hx
  exact ⟨hjob, hstate, haccount⟩

end Router

end Sluice
