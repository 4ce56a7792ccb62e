import Sluice.Proofs.Admission.Rests

/-! # No shutdown is lost

Whoever waits for capacity looks at the signal, opens a browser, draws a ticket, looks at the signal
again, looks at the depth, and rests. Whoever shuts the station down first says so and then ends the
rests under way. Each of these steps may come between any two steps of anybody else. As the ticket
is drawn before the second look, whoever rests when the station was shut down is woken at once,
although the rest may have begun behind the interruption.
-/

namespace Sluice

/-- Somebody at the station of an admission controller. -/
inductive Party where
  | wait (session : Handle .session) (destination : Destination)
  | shutDown
  | interrupt

namespace Party

/-- What somebody does, a request at a time, and what comes of a wait. -/
def work (c : AdmissionConfig) : Party → Work (Option (Except AdmissionError Admission))
  | .wait session destination => do
      let result ← c.awaitCapacity session destination
      return some result
  | .shutDown => do
      Work.shutDown
      Work.interrupt
      return none
  | .interrupt => do
      Work.interrupt
      return none

/-- The scene to which choices lead in which anybody waits, shuts down or interrupts. -/
def crowd (c : AdmissionConfig) (choices : List (Choice Party)) :
    Scene Party (Option (Except AdmissionError Admission)) :=
  ({} : Scene _ _).run (work c) choices

/-- Whether somebody has shut the station down: a task has come back that did so, or it was done in
one step. -/
def HasShutDown (c : AdmissionConfig) (choices : List (Choice Party)) : Prop :=
  (∃ i, (crowd c choices).jobs[i]? = some .shutDown ∧ ((crowd c choices).outcome? i).isSome) ∨
    .shutDown ∈ choices

variable {c : AdmissionConfig}

theorem lockless_work (c : AdmissionConfig) (party : Party) : (party.work c).Lockless := by
  cases party with
  | wait session destination =>
      exact (Work.lockless_awaitCapacity session destination).bind fun _ => trivial
  | shutDown => exact ⟨.inr (.inl rfl), fun _ _ => ⟨.inr (.inr rfl), fun _ _ => trivial⟩⟩
  | interrupt => exact ⟨.inr (.inr rfl), fun _ _ => trivial⟩

theorem guarded_work (c : AdmissionConfig) (rounds : Nat) (party : Party) :
    (party.work c).Guarded rounds fun _ => True := by
  cases party with
  | wait session destination =>
      exact (Work.guarded_awaitCapacity session destination).bind (fun _ _ => trivial)
        (fun _ => Work.honours_done trivial) fun _ => Work.guarded_done _
  | shutDown =>
      exact Work.guarded_ask rfl (by simp) fun _ => Work.guarded_ask rfl (by simp) fun _ =>
        Work.guarded_done _
  | interrupt => exact Work.guarded_ask rfl (by simp) fun _ => Work.guarded_done _

/-- What is true of every scene: tickets are drawn before the interruptions that they are good for,
and whoever began to shut the station down is getting on with it. -/
structure Alert (s : Scene Party (Option (Except AdmissionError Admission))) : Prop where
  lockless : s.Lockless
  ticketed : s.Ticketed fun _ _ => True
  winding : ∀ i, s.jobs[i]? = some .shutDown →
    s.Winding i (fun _ => Script.done none) ∨ s.state? i = some .cancelled

section Alert

variable {s : Scene Party (Option (Except AdmissionError Admission))}

theorem alert_empty : Alert {} where
  lockless := Scene.lockless_empty
  ticketed := Scene.ticketed_empty
  winding i hjob := by simp at hjob

theorem Alert.step (h : Alert s) (choice : Choice Party) :
    Alert (s.step (work c) choice) where
  lockless := h.lockless.step (lockless_work c) choice
  ticketed := h.ticketed.step h.lockless.regular (guarded_work c) choice
  winding i hjob := by
    rw [Scene.jobs_step_eq] at hjob
    rcases Nat.lt_or_ge i s.jobs.length with hlt | hge
    · rw [List.getElem?_append_left hlt] at hjob
      rcases h.winding i hjob with hwinding | hstopped
      · exact hwinding.step_or_cancelled h.lockless.regular h.ticketed (guarded_work c) choice
      · exact .inr (Scene.cancelled_step h.lockless.regular hstopped choice)
    -- a party that was not there before has just begun
    · rw [List.getElem?_append_right hge] at hjob
      cases choice with
      | begin party =>
          rw [Scene.begun, List.getElem?_singleton, Option.ite_none_right_eq_some] at hjob
          obtain ⟨hzero, hparty⟩ := hjob
          obtain rfl := Option.some.inj hparty
          have hi : i = s.schedule.tasks.length := by
            rw [← h.lockless.jobs]
            omega
          exact .inl (.called ((Scene.state?_begin s _ _).trans (if_pos hi)))
      | _ => simp [Scene.begun] at hjob

theorem Alert.run (h : Alert s) (choices : List (Choice Party)) :
    Alert (s.run (work c) choices) :=
  Scene.run_of_step (fun _ choice h => h.step choice) h choices

/-- Whoever has come back from shutting the station down has dismissed everybody. -/
theorem Alert.dismissed (h : Alert s) {i : Nat} (hjob : s.jobs[i]? = some .shutDown)
    (hback : (s.outcome? i).isSome) : s.Dismissed := by
  obtain ⟨x, hx⟩ := Option.isSome_iff_exists.mp hback
  have hgoes := Scene.goesOn_of_outcome hx
  rcases h.winding i hjob with hwinding | hstopped
  · cases hwinding with
    | called hstate => simp [Scene.goesOn, hstate, TaskState.goesOn] at hgoes
    | down hdown hstate => simp [Scene.goesOn, hstate, TaskState.goesOn] at hgoes
    | through h => exact h
  · simp [Scene.outcome?, hstopped] at hx

/-- Whoever is dismissed stays so, and sleeps through no rest. -/
theorem Alert.dismissed_run (h : Alert s) (hdismissed : s.Dismissed)
    (choices : List (Choice Party)) :
    (s.run (work c) choices).Dismissed ∧
      ∃ events, (s.run (work c) choices).past = s.past ++ events ∧
        ∀ e ∈ events, e.deed ≠ .rested false := by
  induction choices generalizing s with
  | nil => exact ⟨hdismissed, [], (List.append_nil _).symm, by simp⟩
  | cons choice rest ih =>
      have hnext := hdismissed.step h.lockless.regular (guarded_work c) choice
      obtain ⟨first, hfirst, hnone⟩ := hdismissed.past_step (work c) h.lockless.regular choice
      obtain ⟨hlast, later, hlater, hnone'⟩ := ih (h.step choice) hnext
      refine ⟨hlast, first ++ later, ?_, List.forall_mem_append.mpr ⟨hnone, hnone'⟩⟩
      rw [Scene.run_cons, hlater, hfirst, List.append_assoc]

end Alert

theorem alert_crowd (c : AdmissionConfig) (choices : List (Choice Party)) :
    Alert (crowd c choices) :=
  alert_empty.run choices

theorem dismissed_of_hasShutDown {choices : List (Choice Party)} (h : HasShutDown c choices) :
    (crowd c choices).Dismissed := by
  rcases h with ⟨i, hjob, hback⟩ | hmem
  · exact (alert_crowd c choices).dismissed hjob hback
  · obtain ⟨before, later, rfl⟩ := List.append_of_mem hmem
    have halert := alert_crowd c before
    have hdown : ((crowd c before).step (work c) .shutDown).Dismissed :=
      Scene.dismissed_of_shutDown halert.lockless.regular halert.ticketed (guarded_work c)
    rw [crowd, Scene.run_append, Scene.run_cons]
    exact ((halert.step .shutDown).dismissed_run hdown later).1

/-- Once anybody has shut the station down, whoever rests there is woken, also in all scenes that
come of it, and nobody sleeps through a poll interval any more. -/
theorem no_shutdown_lost (c : AdmissionConfig) (choices further : List (Choice Party))
    (hdown : HasShutDown c choices) :
    let s := crowd c choices
    let s' := crowd c (choices ++ further)
    (∀ i deadline ticket next, s'.state? i = some (.resting deadline ticket next) →
      s'.station.signal.endedSince ticket = true) ∧
      ∃ events, s'.past = s.past ++ events ∧ ∀ e ∈ events, e.deed ≠ .rested false := by
  intro s s'
  have hlater : s' = s.run (work c) further := Scene.run_append _ _ _ _
  obtain ⟨hdismissed, hevents⟩ :=
    (alert_crowd c choices).dismissed_run (c := c) (dismissed_of_hasShutDown hdown) further
  rw [← hlater] at hdismissed hevents
  refine ⟨fun i deadline ticket next hstate => ?_, hevents⟩
  exact hdismissed.ended_of_resting (alert_crowd c _).lockless.regular hstate

/-- One rests at a full queue, and another has looked at the signal twice and not yet at the depth,
when a third shuts the station down. -/
def raced : List (Choice Party) :=
  [.operate (.declare (.queue "orders")), .operate (.call (.createConnection none)),
    .operate (.call (.createSession ⟨0⟩ false .auto)),
    .operate (.inject (.queue "orders") { body := .text "late" }),
    .begin (.wait ⟨0⟩ (.queue "orders"))] ++ List.replicate 8 (.act 0) ++
    .begin (.wait ⟨0⟩ (.queue "orders")) :: List.replicate 4 (.act 1) ++
    [.begin .shutDown, .act 2, .act 2]

set_option maxRecDepth 4000 in
/-- The rest that begins behind the interruption is over as it begins. -/
theorem no_shutdown_lost_between :
    let further := List.replicate 6 (.act 1) ++ List.replicate 3 (.act 0)
    let s := crowd .narrow raced
    let s' := crowd .narrow (raced ++ further)
    HasShutDown .narrow raced ∧ s.rests 0 = true ∧
      ((∀ i deadline ticket next, s'.state? i = some (.resting deadline ticket next) →
          s'.station.signal.endedSince ticket = true) ∧
        ∃ events, s'.past = s.past ++ events ∧ ∀ e ∈ events, e.deed ≠ .rested false) ∧
      s'.outcome? 0 = some (some (.ok .interrupted)) ∧
      s'.outcome? 1 = some (some (.ok .interrupted)) ∧ s'.schedule.now = 0 := by
  intro further s s'
  have hdown : HasShutDown .narrow raced := .inl ⟨2, rfl, rfl⟩
  exact ⟨hdown, rfl, no_shutdown_lost .narrow raced further hdown, rfl, rfl, rfl⟩

end Party

end Sluice
