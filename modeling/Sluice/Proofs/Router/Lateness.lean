import Sluice.Proofs.Admission.Timing
import Sluice.Proofs.Router.Prospects
import Sluice.Proofs.Task.Clock

/-! # Too late by the clock

A publishing that gives up because its destination stayed too full has taken all the time that it
was given, and it says so: with settings that are in order a wait is never given up because the
clock stood still. So the bound on the rests of a wait, which makes its script finite, never decides
how the wait ends.
-/

namespace Sluice

/-- What is late is too late by the clock: the time that was given has passed since the
beginning. -/
def AdmissionConfig.TooLate (c : AdmissionConfig) (began : Nat)
    (x : Except AdmissionError Admission) (time : Nat) : Prop :=
  ∀ e, x = .error e → e.isLate = true → (∃ depth, e = .timedOut depth) ∧ began + c.timeout ≤ time

/-- What a router reports as backpressure is its timeout, and the time that was given has passed
since the beginning. -/
def Router.TooLate (r : Router) (began : Nat) (e : RouterError) (time : Nat) : Prop :=
  e.isBackpressure = true →
    (∃ destination depth, e = .backpressureTimeout destination r.config.admission.highWaterMark
      r.config.admission.timeout depth) ∧ began + r.config.admission.timeout ≤ time

/-- The error with which a router came back. -/
def Outcome.error? : Outcome → Option RouterError
  | .routed (.error e) => some e
  | .visited (.error e) => some e
  | _ => none

namespace Work

/-! ### Waiting -/

section Waiting

variable {c : AdmissionConfig} {began now : Nat} {x : Except AdmissionError Admission}

theorem timed_undelayed (h : ∀ e, x = .error e → e.isLate = false) :
    Timed (c.TooLate began) (Script.done x) now :=
  timed_done fun _ _ e he hlate => by simp [h e he] at hlate

theorem timed_timedOut {depth : Nat} (h : began + c.timeout ≤ now) :
    Timed (c.TooLate began) (Script.done (.error (.timedOut depth))) now := by
  refine timed_done fun time htime e he _ => ?_
  obtain rfl := Except.error.inj he
  exact ⟨⟨depth, rfl⟩, Nat.le_trans h htime⟩

/-- Every rest takes some of the time, so there are rests left as long as there is time. -/
theorem timed_watch (hpoll : 0 < c.pollInterval) {browser : Handle .browser}
    {ticket start rests depth : Nat} (hbegan : began ≤ start)
    (hrests : start + c.timeout ≤ now + rests) :
    (c.watch browser ticket start rests depth).Timed (c.TooLate began) now := by
  have hlate : ∀ {time : Nat}, start + c.timeout ≤ time → began + c.timeout ≤ time :=
    fun hle => Nat.le_trans (Nat.add_le_add_right hbegan _) hle
  -- on the number of rests; what is left of the time is no more than that
  induction rests generalizing now depth with
  | zero =>
      unfold AdmissionConfig.watch
      split
      next => exact timed_clock fun _ _ => timed_undelayed (by simp)
      next =>
        refine timed_clock fun time htime => ?_
        have hup : start + c.timeout ≤ time := Nat.le_trans hrests htime
        rw [if_neg (Nat.not_lt.mpr hup)]
        exact timed_timedOut (hlate hup)
  | succ rests ih =>
      unfold AdmissionConfig.watch
      split
      next => exact timed_clock fun _ _ => timed_undelayed (by simp)
      next =>
        refine timed_clock fun time htime => ?_
        split
        next =>
          refine timed_rest (fun _ _ => timed_undelayed (by simp)) fun asked hasked => ?_
          refine timed_ask rfl fun woken hwoken reply => ?_
          cases reply with
          | error cause => exact timed_undelayed (by simp [AdmissionError.isLate])
          | ok depth => exact ih (by omega)
        next hup => exact timed_timedOut (hlate (Nat.not_lt.mp hup))

theorem timed_awaitBelowMark (hpoll : 0 < c.pollInterval) (browser : Handle .browser)
    (hbegan : began ≤ now) : (c.awaitBelowMark browser).Timed (c.TooLate began) now := by
  refine timed_ask rfl fun drawn hdrawn ticket => timed_ask rfl fun looked hlooked down => ?_
  cases down with
  | true => exact timed_undelayed (by simp)
  | false =>
      refine timed_clock fun start hstart => timed_ask rfl fun found hfound reply => ?_
      cases reply with
      | error cause => exact timed_undelayed (by simp [AdmissionError.isLate])
      | ok depth => exact timed_watch hpoll (by omega) (by omega)

/-- A wait that is too late has taken its time. -/
theorem timed_awaitCapacity (hpoll : c.isEnabled = true → 0 < c.pollInterval)
    (session : Handle .session) (d : Destination) (hbegan : began ≤ now) :
    (c.awaitCapacity session d).Timed (c.TooLate began) now := by
  unfold AdmissionConfig.awaitCapacity
  split
  next => exact timed_undelayed (by simp)
  next henabled =>
    refine timed_ask rfl fun looked hlooked down => ?_
    cases down with
    | true => exact timed_undelayed (by simp)
    | false =>
        refine timed_ask rfl fun opened hopened reply => ?_
        cases reply with
        | error cause => exact timed_undelayed (by simp [AdmissionError.isLate])
        | ok found =>
            cases found with
            | none => exact timed_undelayed (by simp)
            | some browser =>
                have hwait := timed_awaitBelowMark (hpoll (by simpa using henabled)) browser
                  (Nat.le_trans hbegan (Nat.le_trans hlooked hopened))
                refine Timed.bind (hwait.mono fun x waited hx => ?_)
                refine timed_ask rfl fun closed hclosed _ => ?_
                refine timed_done fun time htime e he hlate => ?_
                obtain ⟨htimedOut, hle⟩ := hx e he hlate
                exact ⟨htimedOut, by omega⟩

end Waiting

/-! ### Publishing -/

section Publishing

variable {α : Type} {r : Router} {held : Resources} {values : Context} {began now : Nat}

theorem timed_admitted (m : Message) {outcome : Except AdmissionError Admission}
    (h : r.config.admission.TooLate began outcome now) :
    (r.admitted held m outcome).Timed (fun x time => ∀ e, x = .error e → r.TooLate began e time)
      now := by
  cases outcome with
  | error cause =>
      cases cause with
      | timedOut depth =>
          refine timed_done fun time htime e he _ => ?_
          obtain rfl := Except.error.inj he
          exact ⟨⟨_, _, rfl⟩, Nat.le_trans (h _ rfl rfl).2 htime⟩
      | stalled depth =>
          obtain ⟨⟨depth', hnot⟩, -⟩ := h _ rfl rfl
          cases hnot
      | inspection cause =>
          refine timed_done fun _ _ e he hpressure => ?_
          obtain rfl := Except.error.inj he
          cases hpressure
  | ok a =>
      refine Timed.bind (timed_of_forall (fun sent time _ => ?_) _)
      cases sent with
      | ok u => exact timed_done fun _ _ e he => by cases he
      | error cause =>
          refine timed_done fun _ _ e he hpressure => ?_
          obtain rfl := Except.error.inj he
          cases hpressure

theorem timed_publishWith (hvalid : r.config.validate = .ok ()) (hbegan : began ≤ now) :
    (r.publishWith held values).Timed (fun x time => ∀ e, x = .error e → r.TooLate began e time)
      now := by
  cases h : r.prepare values with
  | error e =>
      rw [Router.publishWith_unprepared h]
      refine timed_done fun time _ e' he hpressure => ?_
      obtain rfl := Except.error.inj he
      simp [(hopeful_of_prepare h).1] at hpressure
  | ok m =>
      rw [Router.publishWith_prepared h]
      have hpoll := AdmissionConfig.pollInterval_pos hvalid
      exact Timed.bind ((timed_awaitCapacity hpoll _ _ hbegan).mono fun x time hx =>
        timed_admitted m hx)

/-- Whatever is made of the result, a publishing that is too late has taken its time. -/
theorem timed_publish (hvalid : r.config.validate = .ok ()) {f : Except RouterError Unit → Outcome}
    (hf : ∀ x e, (f x).error? = some e → x = .error e) :
    (r.publish values >>= fun x => Script.done (f x)).Timed
      (fun x time => ∀ e, x.error? = some e → r.TooLate now e time) now := by
  refine timed_locked (timed_ask rfl fun looked hlooked x => ?_)
  have hlast : ∀ {x : Except RouterError Unit} {time : Nat},
      (∀ e, x = .error e → r.TooLate now e time) →
        Timed (fun x time => ∀ e, x.error? = some e → r.TooLate now e time) (Script.done (f x))
          time := by
    intro x time hx
    refine timed_done fun later hlater e he hpressure => ?_
    obtain ⟨htimedOut, hle⟩ := hx e (hf x e he) hpressure
    exact ⟨htimedOut, Nat.le_trans hle hlater⟩
  split
  next hnone =>
    refine timed_done fun time _ => hlast fun e he hpressure => ?_
    obtain rfl := Except.error.inj he
    cases hpressure
  next held _ => exact (timed_publishWith hvalid hlooked).mono fun x time hx => hlast hx

/-- Whatever a router is asked to do, it is too late only by the clock. -/
theorem timed_work (hvalid : r.config.validate = .ok ()) (job : Job) :
    (job.work r).Timed (fun x time => ∀ e, x.error? = some e → r.TooLate now e time) now := by
  cases job with
  | start files defaults =>
      refine timed_locked (Timed.bind (timed_of_forall (fun x time _ => ?_) _))
      cases x with
      | ok u => exact timed_done fun _ _ => timed_done fun _ _ e he => by cases he
      | error cause =>
          refine timed_done fun _ _ => timed_done fun _ _ e he hpressure => ?_
          obtain rfl := Option.some.inj he
          cases hpressure
  | publish values =>
      refine timed_publish hvalid fun x e he => ?_
      cases x with
      | ok u => cases he
      | error cause => exact congrArg Except.error (Option.some.inj he)
  | visit phase values =>
      by_cases hphase : r.config.executionPhase = phase
      · rw [Job.work_visit hphase]
        refine timed_publish hvalid fun x e he => ?_
        cases x with
        | ok u => cases he
        | error cause => exact congrArg Except.error (Option.some.inj he)
      · rw [Job.work_visit_other hphase]
        exact timed_done fun _ _ e he => by cases he
  | state =>
      refine timed_locked (timed_of_forall (fun x time _ => ?_) _)
      exact timed_done fun _ _ e he => by cases he
  | close =>
      refine timed_ask rfl fun _ _ _ => timed_ask rfl fun _ _ _ => ?_
      refine timed_locked (timed_of_forall (fun x time _ => ?_) _)
      exact timed_done fun _ _ e he => by cases he

end Publishing

end Work

namespace Router

/-- However a publishing and everything else go on at a station, backpressure is reported as the
timeout that it is, and not before the time that was given has passed since the publishing was
begun. -/
theorem backpressure_takes_timeout {r : Router} (hvalid : r.config.validate = .ok ())
    (before after : List (Choice Job)) {job : Job} {x : Outcome} {e : RouterError}
    (hx : (r.life (before ++ .begin job :: after)).outcome?
      (r.life before).schedule.tasks.length = some x)
    (herror : x.error? = some e) (hpressure : e.isBackpressure = true) :
    (∃ destination depth, e = .backpressureTimeout destination r.config.admission.highWaterMark
        r.config.admission.timeout depth) ∧
      (r.life before).schedule.now + r.config.admission.timeout ≤
        (r.life (before ++ .begin job :: after)).schedule.now := by
  have hsound := sound_life (G := .free r.config.admission) once_empty before
  have hlife : r.life (before ++ .begin job :: after) =
      (r.life before).run (Job.work r) (.begin job :: after) := Scene.run_append _ _ _ _
  rw [hlife] at hx ⊢
  have htimed := Scene.timed_run hsound (fun job _ _ hown => Gate.abides_work job hown)
    (Work.timed_work hvalid job) after
  exact htimed.outcome hx e herror hpressure

end Router

end Sluice
