import Mathlib.Data.List.Induction
import Sluice.Proofs.Resources.Discreet
import Sluice.Proofs.Router.Publishing
import Sluice.Proofs.Task.Sound
import Sluice.Rehearsal.Stage

/-! # The life of a router

What is asked of a router at its station: to start, to publish, to tell its state, and to close, by
tasks that are begun, wait for one another, and may be stopped. All of them abide by the terms of
the router, whatever its gate is.
-/

namespace Sluice

/-- What a router is asked to do. -/
inductive Job where
  | start (files : Files) (defaults : Properties)
  | publish (values : Context)
  | visit (phase : ExecutionPhase) (values : Context)
  | state
  | close

/-- How a router does what it is asked to. -/
def Job.work (r : Router) : Job → Work Outcome
  | .start files defaults => do return .routed (← r.start files defaults)
  | .publish values => do return .routed (← r.publish values)
  | .visit phase values => do return .visited (← r.visit phase values)
  | .state => do return .state (← Router.state)
  | .close => do Router.close; return .closed

/-- A router at its station. -/
abbrev Life := Scene Job Outcome

namespace Job

variable {r : Router} {phase : ExecutionPhase}

/-- A visit in the phase of the router publishes. -/
theorem work_visit (h : r.config.executionPhase = phase) (values : Context) :
    (Job.visit phase values).work r =
      r.publish values >>= fun x => Script.done (.visited (x.map fun _ => true)) := by
  rw [work, Router.visit, if_neg (by simp [h]), bind_assoc]
  refine congrArg (r.publish values >>= ·) (funext fun x => ?_)
  cases x <;> rfl

/-- A visit in any other phase does nothing. -/
theorem work_visit_other (h : r.config.executionPhase ≠ phase) (values : Context) :
    (Job.visit phase values).work r = Script.done (.visited (.ok false)) := by
  rw [work, Router.visit, if_pos h]
  rfl

end Job

namespace Gate

open Terms

variable {admission : AdmissionConfig} {G : Gate admission} {α : Type} {i : Nat} {m : Moment}

theorem calm_of_answered {r : Request} {a : r.Answer} {m' : Moment} (hr : r.isDiscreet = true)
    (hanswered : Answered i m r a m') (hcalm : G.calm m) : G.calm m' := by
  obtain ⟨met, hmet, rfl⟩ := hanswered
  cases hmet with
  | lookup => exact G.quiet_calm.idled m i _ rfl hcalm
  | call c =>
      exact G.quiet_calm.called m i c _ _ rfl (Broker.delivered_of_isDiscreet hr _ _) hcalm
  | clock => exact G.quiet_calm.idled m i _ rfl hcalm
  | enlist => exact G.quiet_calm.idled m i _ rfl hcalm
  | manager => exact G.quiet_calm.idled m i _ rfl hcalm
  | keep x => exact G.calm_kept m i x hcalm
  | _ => simp [Request.isDiscreet, Request.isInside] at hr

/-- Whoever sends nothing and does not wait keeps a gate. -/
theorem secures_discreet {w : Work α} (hw : w.Discreet) (hcalm : G.calm m) :
    G.toTerms.Secures i (fun _ m => G.calm m) w m := by
  induction w generalizing m with
  | done x =>
      apply secures_done
      intro m' hdrift
      have hcalm' := G.quiet_calm.stable.drift hdrift hcalm
      exact ⟨G.safe_of_calm m' hcalm', hcalm'⟩
  | ask r next ih =>
      intro m' hdrift
      have hcalm' := G.quiet_calm.stable.drift hdrift hcalm
      refine ⟨G.safe_of_calm m' hcalm', ?_, ?_, fun a m'' ha => ?_⟩
      · have hr := hw.1
        cases r <;> simp_all [Request.isDiscreet, Request.isInside]
      · intro hrest
        have hr := hw.1
        cases r <;> simp_all [Request.isDiscreet, Request.isRest]
      · exact ih a (hw.2 a) (calm_of_answered hw.1 ha hcalm')

end Gate

/-! ### What a task has done in the end -/

/-- A message is what a router makes of a context. -/
structure Message.Carries (x : Message) (r : Router) (values : Context) : Prop where
  body : r.encoder r.valueKey values = .ok x.body
  correlationId : match r.assigner.pattern with
    | none => x.correlationId = none
    | some pattern => ∃ id, r.assigner.renderer.render pattern values.model = .ok id ∧
        x.correlationId = some id
  priority : x.priority = r.config.connection.delivery.priority
  timeToLive : x.timeToLive = r.config.connection.delivery.timeToLive
  deliveryMode : x.deliveryMode = r.config.connection.delivery.deliveryMode

theorem carries_of_prepare {r : Router} {values : Context} {x : Message}
    (h : r.prepare values = .ok x) :
    (x.stamp r.config.connection.delivery).Carries r values := by
  unfold Router.prepare at h
  split at h
  next => simp at h
  next body hbody =>
    split at h
    next => simp at h
    next assigned hassigned =>
      obtain rfl := Except.ok.inj h
      unfold Assigner.assign at hassigned
      split at hassigned
      next hpattern =>
        obtain rfl := Except.ok.inj hassigned
        refine ⟨hbody, ?_, rfl, rfl, rfl⟩
        rw [hpattern]
        rfl
      next pattern hpattern =>
        split at hassigned
        next => simp at hassigned
        next id hrendered =>
          split at hassigned
          next => simp at hassigned
          next correlated hcorrelated =>
            obtain rfl := Except.ok.inj hassigned
            unfold Message.correlate at hcorrelated
            cases hcheck : Message.checkCorrelationId id with
            | error cause => simp [hcheck, Except.map] at hcorrelated
            | ok u =>
                rw [hcheck] at hcorrelated
                obtain rfl := Except.ok.inj hcorrelated
                refine ⟨hbody, ?_, rfl, rfl, rfl⟩
                rw [hpattern]
                exact ⟨id, hrendered, rfl⟩

/-- At the end of some events as many handles are open as before, and nothing is left aside. -/
structure Settled (x : Manager) (events : List Event) : Prop where
  gained : ∀ kind, gained kind events = 0
  last : ∃ e ∈ events.getLast?, ∀ held, x.resources = some held →
    e.after.broker.pending held.session = held.settled

/-- What a finished publishing has done: it sent one message, which carries its values, or it failed
and sent none. All the while the manager stayed as it was, nothing but the destination and the fault
that is reported was touched, and in the end nothing is left of it. -/
inductive Account (r : Router) (values : Context) (own : List Event) :
    Except RouterError Unit → Prop
  | notReady {x : Manager} (hnone : x.resources = none)
      (hcourse : ∀ name, Course x name [] [] own) (hsettled : Settled x own) :
      Account r values own (.error (.notReady x.state))
  | failed {x : Manager} {held : Resources} {e : RouterError} (hheld : x.resources = some held)
      (hcourse : Course x held.destination.name e.injected [] own) (hsettled : Settled x own) :
      Account r values own (.error e)
  | sent {x : Manager} {held : Resources} {p : Parcel} (hheld : x.resources = some held)
      (hcarries : p.message.Carries r values)
      (hcourse : Course x held.destination.name [] [p] own) (hsettled : Settled x own) :
      Account r values own (.ok ())

/-- How a finished publishing has waited. -/
structure Watched (r : Router) (own : List Event) (x : Except RouterError Unit) : Prop where
  waits : ∀ e ∈ own, e.deed.waits → ∃ e ∈ own, ∃ held,
    e.before.manager.resources = some held ∧ e.Finds held.destination .queue
  late : ∀ e, x = .error e → e.isBackpressure = true → ∃ e ∈ own, e.deed.waits
  admitted : x = .ok () → ∃ e ∈ own, ∃ held, e.before.manager.resources = some held ∧
    ∃ a : Admission, a.Shown r.config.admission held.destination own

/-- What a task has done in the end, by what the router was asked to do. -/
def Job.account (r : Router) : Job → Outcome → List Event → Prop
  | .publish values, .routed x, own => Account r values own x ∧ Watched r own x
  | .visit phase values, .visited x, own =>
      if r.config.executionPhase = phase then
        ∃ y, x = y.map (fun _ => true) ∧ Account r values own y ∧ Watched r own y
      else x = .ok false ∧ own = []
  | .publish _, _, _ => False
  | .visit _ _, _, _ => False
  | _, _, _ => True

/-- A task came in and has done nothing yet but look. -/
def Entered (i : Nat) (m : Moment) : Prop :=
  ∀ e ∈ m.own i, e.deed = .other ∧ e.after = e.before ∧ e.before.manager = m.manager

namespace Entered

variable {i : Nat} {m m' : Moment}

theorem shift (h : Entered i m) (hkeeps : m.broker.Keeps m.ours) (hshift : Shift i m m') :
    Entered i m' := by
  have hframe := hshift.frame hkeeps
  intro e he
  rw [hframe.own] at he
  rw [hframe.manager]
  exact h e he

theorem idled (h : Entered i m) : Entered i (m.idled i .other) := by
  intro e he
  rw [Moment.own_idled] at he
  rcases List.mem_append.mp he with hold | hnew
  · exact h e hold
  · rw [List.mem_singleton.mp hnew]
    exact ⟨rfl, rfl, rfl⟩

theorem course (h : Entered i m) (name : String) : Course m.manager name [] [] (m.own i) := by
  unfold Entered at h
  generalize m.own i = events at h
  -- from the end, as a course grows
  induction events using List.reverseRecOn with
  | nil => exact .nil
  | append_singleton events e ih =>
      obtain ⟨-, hsame, hmanager⟩ := h e (List.mem_append_right _ List.mem_cons_self)
      refine (ih fun e he => h e (List.mem_append_left _ he)).quiet ?_
      rw [← hmanager]
      exact Event.does_nothing hsame name

theorem gained (h : Entered i m) (kind : HandleKind) : gained kind (m.own i) = 0 := by
  have hzero : ∀ e ∈ m.own i, (e.after.broker.openHandles.count kind : Int) -
      e.before.broker.openHandles.count kind = 0 := by
    intro e he
    rw [(h e he).2.1]
    omega
  rw [Sluice.gained, List.map_congr_left hzero]
  simp

theorem not_waits (h : Entered i m) : ∀ e ∈ m.own i, e.deed.waits = false := by
  intro e he
  rw [(h e he).1]
  rfl

theorem countP (h : Entered i m) : (m.own i).countP (·.deed.letsThrough) = 0 := by
  rw [List.countP_eq_zero]
  intro e he
  rw [(h e he).1]
  simp [Deed.letsThrough]

/-- Whoever came in and finds the manager ready can begin to publish. -/
theorem ongoing {r : Router} {held : Resources} (h : Entered i m)
    (horder : InOrder (· = r.config.connection) m) (hheld : m.manager.resources = some held) :
    Ongoing i r.config.connection held held.settled none 0 [] [] m := by
  have hcourse := h.course held.destination.name
  have hstands := horder.stands
  generalize hmanager : m.manager = x at hheld hstands hcourse
  cases hstands with
  | idle state hstate => rcases hstate with rfl | rfl | rfl <;> simp [Manager.resources] at hheld
  | ready settings held' hfits hserves =>
      obtain rfl := hfits
      obtain rfl : held' = held := Option.some.inj hheld
      refine ⟨horder.keeps, hmanager, hserves, by simp, ?_, hcourse, ?_, h.countP⟩
      · intro kind
        simp [h.gained]
      · intro e he hwaits
        simp [h.not_waits e he] at hwaits

end Entered

theorem Published.account {r : Router} {held : Resources} {values : Context}
    {x : Except RouterError Unit} {i : Nat} {m : Moment} (h : Published r held values x i m) :
    Account r values ((m.idled i .other).own i) x ∧ Watched r ((m.idled i .other).own i) x ∧
      Excused r values x := by
  obtain ⟨through, spent, sent, hongoing, houtcome⟩ := h.ongoing
  have hlast := hongoing.idled .other (by simp [Deed.waits])
  have hheld : Manager.resources { state := .ready, held := some held } = some held := rfl
  have hsettled : Settled { state := .ready, held := some held } ((m.idled i .other).own i) := by
    refine ⟨by simpa using hlast.gained, ?_⟩
    rw [Moment.own_idled, List.getLast?_concat]
    refine ⟨_, rfl, fun held' heq => ?_⟩
    obtain rfl := Option.some.inj heq
    exact Gate.pending_of_ongoing hongoing
  refine ⟨?_, ⟨?_, ?_, ?_⟩, h.excused⟩
  · cases x with
    | error e =>
        obtain ⟨rfl, rfl⟩ := houtcome
        exact .failed hheld hlast.course hsettled
    | ok u =>
        obtain ⟨rfl, p, prepared, rfl, hprepare, hmessage⟩ := houtcome
        exact .sent hheld (hmessage ▸ carries_of_prepare hprepare) hlast.course hsettled
  · intro e he hwaits
    obtain ⟨e', he', hinspects⟩ := hlast.waits e he hwaits
    refine ⟨e', he', held, ?_, hinspects⟩
    rw [(hlast.course.manager e' he').1]
    rfl
  · intro e heq hpressure
    obtain ⟨e, he, hwaits⟩ := h.late e heq hpressure
    refine ⟨e, ?_, hwaits⟩
    rw [Moment.own_idled]
    exact List.mem_append_left _ he
  · intro hx
    obtain ⟨a, hshown⟩ := h.admitted hx
    rw [Moment.own_idled]
    refine ⟨_, List.mem_append_right _ List.mem_cons_self, held, ?_, a, hshown.append _⟩
    change m.manager.resources = some held
    rw [hongoing.manager]
    rfl

namespace Gate

open Terms

variable {r : Router} {G : Gate r.config.admission} {i : Nat} {m : Moment}

/-- The terms on which a router lives. -/
abbrev life (G : Gate r.config.admission) : Terms := G.terms (· = r.config.connection)

/-- What is done inside the lock to publish. -/
theorem secures_publish (values : Context) (hcalm : G.life.calm m) (hown : m.own i = []) :
    G.life.Secures i (fun x m => G.life.calm m ∧
        Account r values ((m.idled i .other).own i) x ∧ Watched r ((m.idled i .other).own i) x ∧
          Excused r values x)
      (Work.manager >>= fun x => match x.resources with
        | none => Script.done (.error (.notReady x.state))
        | some held => r.publishWith held values) (m.idled i .other) := by
  have hentered : Entered i m := by
    intro e he
    simp [hown] at he
  have hidled : ∀ m, G.life.calm m → G.life.calm (m.idled i .other) := by
    intro m hm
    exact ⟨hm.1.stretch (Stretch.idled hm.1.keeps i .other), G.quiet_calm.idled m i .other rfl hm.2⟩
  have hlasts : ∀ m m', Shift i m m' → G.life.calm m ∧ Entered i m →
      G.life.calm m' ∧ Entered i m' :=
    fun m m' hshift hA => ⟨G.life.calm_stable i m m' hshift hA.1, hA.2.shift hA.1.1.keeps hshift⟩
  have hsafe : ∀ m, G.life.calm m ∧ Entered i m → G.life.safe m :=
    fun m hA => G.life.safe_of_calm m hA.1
  apply secures_look_at hlasts hsafe ⟨hidled m hcalm, hentered.idled⟩
  rintro m ⟨hcalm, hentered⟩
  refine ⟨m.manager, rfl, ?_⟩
  have hnow := hidled m hcalm
  have hentered' : Entered i (m.idled i .other) := hentered.idled
  split
  next hnone =>
    -- only whoever has the lock changes the manager, so it stays what was seen of it
    have hmanager : ∀ m' m'', Shift i m' m'' →
        (G.life.calm m' ∧ Entered i m') ∧ m'.manager = m.manager →
          (G.life.calm m'' ∧ Entered i m'') ∧ m''.manager = m.manager :=
      fun m' m'' hshift hA =>
        ⟨hlasts m' m'' hshift hA.1, (hshift.frame hA.1.1.1.keeps).manager.trans hA.2⟩
    apply secures_done_at hmanager (fun m hA => hsafe m hA.1) ⟨⟨hnow, hentered'⟩, rfl⟩
    rintro m' ⟨⟨hcalm, hentered⟩, hsame⟩
    have hlast : Entered i (m'.idled i .other) := hentered.idled
    have hcourse := hlast.course
    rw [← hsame] at hnone ⊢
    refine ⟨hcalm, .notReady hnone hcourse ⟨hlast.gained, ?_⟩,
      ⟨?_, by simp [RouterError.isBackpressure], by simp⟩, .notReady _⟩
    · rw [Moment.own_idled, List.getLast?_concat]
      exact ⟨_, rfl, fun held hheld => by simp [hnone] at hheld⟩
    · intro e he hwaits
      simp [hlast.not_waits e he] at hwaits
  next held hheld =>
    have hongoing := hentered'.ongoing hnow.1 hheld
    refine (secures_publishWith (· = r.config.connection) rfl values hongoing hnow.2).mono ?_
    intro x m hx
    exact ⟨hx.1, hx.2.account⟩

/-- What is done inside the lock by somebody who sends nothing. -/
theorem abides_discreet {α : Type} {body : Work α} {f : α → Outcome}
    {account : Outcome → List Event → Prop} (hbody : body.Discreet)
    (horder : ∀ m', InOrder (· = r.config.connection) m' → m'.own i = m.own i →
      (Terms.order (· = r.config.connection)).Secures i
        (fun x m'' => InOrder (· = r.config.connection) m'' ∧
          account (f x) ((m''.idled i .other).own i)) body (m'.idled i .other)) :
    G.life.Abides i account (Work.locked body >>= fun x => Script.done (f x)) false m := by
  apply abides_locked
  intro m' hcalm hown
  refine ((horder m' hcalm.1 hown).both
    (secures_discreet hbody (G.quiet_calm.idled m' i .other rfl hcalm.2))).mono ?_
  intro x m hx
  exact ⟨⟨hx.1.1, hx.2⟩, hx.1.2⟩

/-- What is done inside the lock to publish, with the way into the lock and out of it. -/
theorem abides_publish (values : Context) (hown : m.own i = [])
    {f : Except RouterError Unit → Outcome} {account : Outcome → List Event → Prop}
    (haccount : ∀ x own, Account r values own x ∧ Watched r own x ∧ Excused r values x →
      account (f x) own) :
    G.life.Abides i account (r.publish values >>= fun x => Script.done (f x)) false m := by
  apply abides_locked
  intro m' hcalm hsame
  refine (secures_publish values hcalm (hsame.trans hown)).mono ?_
  intro x m hx
  exact ⟨hx.1, haccount x _ hx.2⟩

/-- What is asked before the lock is nothing to the broker and the manager. -/
theorem abides_raised {r' : Request} {next : r'.Answer → Work Outcome}
    {account : Outcome → List Event → Prop} (hr : r' = .shutDown ∨ r' = .interrupt)
    (hnext : ∀ a m' e, m'.own i = m.own i ++ [e] → e.after = e.before →
      G.life.Abides i account (next a) false m') :
    G.life.Abides i account (Script.ask r' next) false m := by
  refine ⟨by rcases hr with rfl | rfl <;> rfl, fun m' hown _ a m'' hanswered => ?_⟩
  have hleads : r'.leadsInside false = false := by rcases hr with rfl | rfl <;> rfl
  have hsame : m''.toGround = m'.toGround := by
    obtain ⟨met, hmet, rfl⟩ := hanswered
    rcases hr with rfl | rfl <;> cases hmet <;> rfl
  rw [hleads]
  exact hnext a m'' _ (hown ▸ hanswered.own) hsame

/-- Whatever a router is asked to do, it abides by its terms. -/
theorem abides_work (job : Job) (hown : m.own i = []) :
    G.life.Abides i (job.account r) (job.work r) false m := by
  cases job with
  | start files defaults =>
      refine abides_discreet (f := Outcome.routed) ?_ fun m' horder _ => ?_
      · apply Work.discreet_bind (Work.discreet_start r.config files defaults)
        intro x
        cases x <;> exact Work.discreet_done _
      · have horder' := horder.stretch (Stretch.idled horder.keeps i .other)
        have hstart := @Manager.secures_start (· = r.config.connection) i _ r.config files defaults
          rfl horder'
        refine Secures.bind (hstart.mono fun x m hx => ?_)
        cases x <;>
          exact Manager.secures_done_in_order hx.1 fun m' horder' _ _ => ⟨horder', trivial⟩
  | publish values => exact abides_publish values hown fun x own h => ⟨h.1, h.2.1⟩
  | visit phase values =>
      by_cases hphase : r.config.executionPhase = phase
      · rw [Job.work_visit hphase]
        apply abides_publish values hown
        intro x own h
        rw [Job.account, if_pos hphase]
        exact ⟨x, rfl, h.1, h.2.1⟩
      · rw [Job.work_visit_other hphase]
        refine ⟨rfl, ?_⟩
        rw [Job.account, if_neg hphase]
        exact ⟨rfl, hown⟩
  | state =>
      refine abides_discreet (f := Outcome.state) ?_ fun m' horder _ => ?_
      · exact Work.discreet_ask rfl fun x => Work.discreet_done _
      · have horder₀ := horder.stretch (Stretch.idled horder.keeps i .other)
        refine Manager.secures_consult horder₀ fun m' horder' _ _ => ?_
        exact Manager.secures_done_in_order horder' fun m'' horder'' _ _ => ⟨horder'', trivial⟩
  | close =>
      refine abides_raised (.inl rfl) fun _ m _ _ _ =>
        abides_raised (.inr rfl) fun _ m _ _ _ => ?_
      refine abides_discreet (f := fun _ => Outcome.closed) Work.discreet_close
        fun m' horder _ => ?_
      have horder' := horder.stretch (Stretch.idled horder.keeps i .other)
      exact (Manager.secures_close horder').mono fun x m hx => ⟨hx.1, trivial⟩

end Gate

end Sluice
