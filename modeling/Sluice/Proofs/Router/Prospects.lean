import Sluice.Proofs.Router.Scripts
import Sluice.Proofs.Router.Sendings

/-! # What publishings can count on

A publishing that finds its router ready, and whose rests are all ended before they are over, is
neither refused nor too late, whatever the depth of its destination. One that finds its router
closed is refused, and has done nothing. Both are seen from the scripts alone.
-/

namespace Sluice

/-- Time stands still, the manager stays what it is, and every rest is ended. -/
def Agreement.lucky (now : Nat) (x : Manager) : Agreement where
  may r := (∀ ticket, r ≠ .rest 0 ticket) ∧ ∀ y, r ≠ .keep y
  answers
    | .clock, time => time = now
    | .manager, y => y = x
    | .rest _ _, early => early = true
    | _, _ => True

/-- The manager is closed; all that may be asked for is a look at it, the lock, and the signal. -/
def Agreement.vain : Agreement where
  may
    | .manager | .lock | .unlock | .shutDown | .interrupt => True
    | _ => False
  answers
    | .manager, x => x.state = .closed
    | _, _ => True

/-- The result is no refusal, and the time was not up. -/
def Hopeful {β : Type} : Except RouterError β → Prop
  | .ok _ => True
  | .error e => e.isBackpressure = false ∧ ∀ state, e ≠ .notReady state

/-- The outcome is no refusal, and the time was not up. -/
def Outcome.Hopeful : Outcome → Prop
  | .routed x => Sluice.Hopeful x
  | .visited x => Sluice.Hopeful x
  | _ => True

/-- The router was closed before. -/
def Outcome.Refused (x : Outcome) : Prop :=
  x = .routed (.error (.notReady .closed)) ∨ x = .visited (.error (.notReady .closed))

namespace Work

variable {α β : Type} {rounds now : Nat} {x : Manager} {c : AdmissionConfig} {r : Router}
variable {values : Context} {held : Resources}

/-! ### Publishing while the router is ready -/

/-- Work that rests can count on something if its rests are ended. -/
structure Hopes (c : AdmissionConfig) (ends : α → Prop) (w : Work α) : Prop where
  rests : ∃ ticket next, w = Script.ask (.rest c.pollInterval ticket) next
  timeout : 0 < c.timeout
  honours : 0 < c.pollInterval → ∀ now x, x.resources.isSome → w.Honours (.lucky now x) ends

theorem Hopes.bind {ends : α → Prop} {ends' : β → Prop} {w : Work α} {f : α → Work β}
    (h : w.Hopes c ends)
    (hf : 0 < c.pollInterval → ∀ now y, y.resources.isSome → ∀ x, ends x →
      (f x).Honours (.lucky now y) ends') :
    (w >>= f).Hopes c ends' := by
  refine ⟨?_, h.timeout, fun hpoll now x hx => (h.honours hpoll now x hx).bind (hf hpoll now x hx)⟩
  obtain ⟨ticket, next, rfl⟩ := h.rests
  exact ⟨ticket, _, rfl⟩

/-- The time is not up. -/
def InTime (x : Except AdmissionError Admission) : Prop := ∀ e, x = .error e → e.isLate = false

theorem may_call (c : Call) : (Agreement.lucky now x).may (.call c) := ⟨by simp, by simp⟩

theorem lucky_ask {r : Request} {f : r.Answer → Work β} {ends : β → Prop}
    (hr : r.isRest = false) (hkeep : ∀ y, r ≠ .keep y)
    (hf : ∀ a, (Agreement.lucky now x).answers r a → (f a).Honours (.lucky now x) ends) :
    (Work.ask r >>= f).Honours (.lucky now x) ends := by
  refine honours_ask ⟨?_, hkeep⟩ hf
  rintro ticket rfl
  simp [Request.isRest] at hr

/-- A rest that is ended lets through. -/
theorem lucky_rest {ticket : Nat} {f : Bool → Work (Except AdmissionError Admission)}
    (hpoll : 0 < c.pollInterval) (hf : f true = Script.done (.ok .interrupted)) :
    (Work.restUnlessInterrupted c.pollInterval ticket >>= f).Honours (.lucky now x) InTime := by
  refine honours_ask ⟨?_, by simp⟩ ?_
  · intro ticket heq
    exact absurd (Request.rest.inj heq).1 hpoll.ne'
  · rintro early rfl
    rw [hf]
    exact honours_done (by simp [InTime])

theorem lucky_watch {browser : Handle .browser} {ticket rests depth : Nat}
    (hpoll : 0 < c.pollInterval) (htimeout : 0 < c.timeout) (hrests : 0 < rests) :
    (c.watch browser ticket now rests depth).Honours (.lucky now x) InTime := by
  obtain ⟨rests, rfl⟩ := Nat.exists_eq_succ_of_ne_zero hrests.ne'
  unfold AdmissionConfig.watch
  split
  next => exact lucky_ask rfl (by simp) fun _ _ => honours_done (by simp [InTime])
  next =>
    refine lucky_ask rfl (by simp) fun time htime => ?_
    obtain rfl : time = now := htime
    rw [if_pos (by exact Nat.lt_add_of_pos_right htimeout)]
    exact lucky_rest hpoll rfl

theorem lucky_awaitCapacity (hpoll : 0 < c.pollInterval) (htimeout : 0 < c.timeout)
    (session : Handle .session) (d : Destination) :
    (c.awaitCapacity session d).Honours (.lucky now x) InTime := by
  unfold AdmissionConfig.awaitCapacity
  split
  next => exact honours_done (by simp [InTime])
  next =>
    refine lucky_ask rfl (by simp) fun down _ => ?_
    cases down with
    | true => exact honours_done (by simp [InTime])
    | false =>
        refine lucky_ask rfl (by simp) fun reply _ => ?_
        cases reply with
        | error cause => exact honours_done (by simp [InTime, AdmissionError.isLate])
        | ok found =>
            cases found with
            | none => exact honours_done (by simp [InTime])
            | some w =>
                refine Honours.bind (?_ : Honours _ InTime _) fun result hresult =>
                  lucky_ask rfl (by simp) fun _ _ => honours_done hresult
                refine lucky_ask rfl (by simp) fun ticket _ => lucky_ask rfl (by simp) fun down _ =>
                  ?_
                cases down with
                | true => exact honours_done (by simp [InTime])
                | false =>
                    refine lucky_ask rfl (by simp) fun start hstart => ?_
                    obtain rfl : start = now := hstart
                    refine lucky_ask rfl (by simp) fun reply _ => ?_
                    cases reply with
                    | error cause => exact honours_done (by simp [InTime, AdmissionError.isLate])
                    | ok depth => exact lucky_watch hpoll htimeout htimeout

theorem hopeful_of_prepare {e : RouterError}
    (h : r.prepare values = .error e) : Hopeful (.error e : Except RouterError Unit) := by
  unfold Router.prepare at h
  split at h
  next =>
    obtain rfl := Except.error.inj h
    exact ⟨rfl, by simp⟩
  next =>
    split at h
    next =>
      obtain rfl := Except.error.inj h
      exact ⟨rfl, by simp⟩
    next => simp at h

theorem lucky_admitted (m : Message) {outcome : Except AdmissionError Admission}
    (hintime : InTime outcome) : (r.admitted held m outcome).Honours (.lucky now x) Hopeful := by
  cases outcome with
  | error e =>
      cases e with
      | timedOut depth | stalled depth => cases hintime _ rfl
      | inspection cause => exact honours_done ⟨rfl, by simp⟩
  | ok a =>
      refine ((calls_deliver held m).honours may_call).bind fun sent _ => ?_
      cases sent with
      | ok u => exact honours_done trivial
      | error cause => exact honours_done ⟨rfl, by simp⟩

theorem lucky_publishWith (hpoll : 0 < r.config.admission.pollInterval)
    (htimeout : 0 < r.config.admission.timeout) :
    (r.publishWith held values).Honours (.lucky now x) Hopeful := by
  cases h : r.prepare values with
  | error e =>
      rw [Router.publishWith_unprepared h]
      exact honours_done (hopeful_of_prepare h)
  | ok m =>
      rw [Router.publishWith_prepared h]
      exact (lucky_awaitCapacity hpoll htimeout _ _).bind fun _ => lucky_admitted m

/-- What is done inside the lock is honoured on the way in and out. -/
theorem honours_locked {A : Agreement} {body : Work β} (ends : β → Prop) {ends' : α → Prop}
    {f : β → α} (hlock : A.may .lock) (hunlock : A.may .unlock) (hbody : body.Honours A ends)
    (hf : ∀ y, ends y → ends' (f y)) :
    (Work.locked body >>= fun y => Script.done (f y)).Honours A ends' := by
  refine honours_ask hlock fun _ _ => ?_
  refine Honours.bind (hbody.bind fun y hy => ?_) fun y hy => honours_done (hf y hy)
  exact honours_ask hunlock fun _ _ => honours_done hy

theorem lucky_publish (hpoll : 0 < r.config.admission.pollInterval)
    (htimeout : 0 < r.config.admission.timeout) (hx : x.resources.isSome) {ends : α → Prop}
    {f : Except RouterError Unit → α} (hf : ∀ y, Hopeful y → ends (f y)) :
    (r.publish values >>= fun y => Script.done (f y)).Honours (.lucky now x) ends := by
  refine honours_locked Hopeful ⟨by simp, by simp⟩ ⟨by simp, by simp⟩ ?_ hf
  refine lucky_ask rfl (by simp) fun y hy => ?_
  obtain rfl : y = x := hy
  obtain ⟨held, hheld⟩ := Option.isSome_iff_exists.mp hx
  rw [hheld]
  exact lucky_publishWith hpoll htimeout

theorem hopeful_map {y : Except RouterError Unit} (h : Hopeful y) (b : Bool) :
    Hopeful (y.map fun _ => b) := by
  cases y with
  | ok u => trivial
  | error e => exact h

/-- A publishing is neither refused nor too late if it is lucky. -/
theorem lucky_work (hpoll : 0 < r.config.admission.pollInterval)
    (htimeout : 0 < r.config.admission.timeout) (hx : x.resources.isSome) {job : Job}
    (hjob : (job.values? r).isSome) :
    (job.work r).Honours (.lucky now x) Outcome.Hopeful := by
  cases job with
  | publish values => exact lucky_publish hpoll htimeout hx fun _ h => h
  | visit phase values =>
      by_cases hphase : r.config.executionPhase = phase
      · rw [Job.work_visit hphase]
        exact lucky_publish hpoll htimeout hx fun _ h => hopeful_map h true
      · simp [Job.values?, hphase] at hjob
  | _ => simp [Job.values?] at hjob

/-! ### Resting with tickets that were drawn -/

section Guarded

variable {c : AdmissionConfig}

/-- Whoever gives up when a rest is ended can count on being let through. -/
theorem GivesUp.hopes {w : Work (Except AdmissionError Admission)} (h : w.GivesUp c) :
    w.Hopes c InTime := by
  cases h with
  | rest htimeout ticket browser hf =>
      refine ⟨⟨ticket, _, rfl⟩, htimeout, fun hpoll now x _ => honours_ask ⟨?_, by simp⟩ ?_⟩
      · intro ticket heq
        exact absurd (Request.rest.inj heq).1 hpoll.ne'
      · rintro early rfl
        rw [hf]
        exact lucky_ask rfl (by simp) fun _ _ => honours_done (by simp [InTime])

theorem guarded_publishWith : (r.publishWith held values).Guarded rounds
    (Hopes r.config.admission Hopeful) := by
  cases h : r.prepare values with
  | error e =>
      rw [Router.publishWith_unprepared h]
      exact guarded_done _
  | ok m =>
      rw [Router.publishWith_prepared h]
      refine (guarded_awaitCapacity _ _).bind (fun w hw => hw.hopes.bind ?_)
        (fun outcome => (calls_admitted m outcome).honours (by simp [Agreement.dismissed]))
        fun outcome => (calls_admitted m outcome).guarded
      exact fun _ now y _ outcome houtcome => lucky_admitted m houtcome

theorem guarded_locked {P : Work β → Prop} {P' : Work α → Prop} {body : Work β}
    {f : β → α} (hbody : body.Guarded rounds P)
    (hP : ∀ w, P w → P' (w >>= fun y => Work.ask .unlock >>= fun _ => Script.done (f y))) :
    (Work.locked body >>= fun y => Script.done (f y)).Guarded rounds P' := by
  refine guarded_ask rfl (by simp) fun _ => ?_
  change ((body >>= fun y => (Work.ask .unlock >>= fun _ => Script.done y)) >>=
    fun y => Script.done (f y)).Guarded rounds P'
  rw [bind_assoc]
  refine hbody.bind hP (fun y => ?_) fun y => guarded_ask rfl (by simp) fun _ => guarded_done _
  exact honours_ask (by simp [Agreement.dismissed]) fun _ _ => honours_done trivial

theorem guarded_publish {ends : α → Prop} {f : Except RouterError Unit → α}
    (hf : ∀ y, Hopeful y → ends (f y)) :
    (r.publish values >>= fun y => Script.done (f y)).Guarded rounds
      (Hopes r.config.admission ends) := by
  refine guarded_locked (P := Hopes r.config.admission Hopeful) ?_ fun w hw => hw.bind ?_
  · refine guarded_ask rfl (by simp) fun y => ?_
    split
    next => exact guarded_done _
    next held _ => exact guarded_publishWith
  · exact fun _ now y _ z hz => lucky_ask rfl (by simp) fun _ _ => honours_done (hf z hz)

/-- Whatever a router is asked to do, it rests only with tickets that were drawn. -/
theorem guarded_work (r : Router) (rounds : Nat) (job : Job) :
    (job.work r).Guarded rounds (Hopes r.config.admission Outcome.Hopeful) := by
  cases job with
  | start files defaults =>
      refine guarded_locked (P := fun _ => False) (Discreet.guarded ?_) (by simp)
      refine discreet_bind (discreet_start _ _ _) fun x => ?_
      cases x <;> exact discreet_done _
  | publish values => exact guarded_publish fun _ h => h
  | visit phase values =>
      by_cases hphase : r.config.executionPhase = phase
      · rw [Job.work_visit hphase]
        exact guarded_publish fun _ h => hopeful_map h true
      · rw [Job.work_visit_other hphase]
        exact guarded_done _
  | state =>
      refine guarded_locked (P := fun _ => False) (Discreet.guarded ?_) (by simp)
      exact discreet_ask rfl fun x => discreet_done _
  | close =>
      refine guarded_ask rfl (by simp) fun _ => guarded_ask rfl (by simp) fun _ => ?_
      exact guarded_locked (P := fun _ => False) discreet_close.guarded (by simp)

end Guarded

/-! ### Coming to a router that was closed -/

theorem vain_start (config : Config) (files : Files) (defaults : Properties) :
    (Manager.start config files defaults).Honours .vain fun _ => True := by
  refine honours_ask trivial fun (y : Manager) (hy : y.state = .closed) => ?_
  rw [if_pos (by simp [hy])]
  exact honours_done trivial

/-- Whoever comes to a router that was closed does nothing to it, and a publishing is refused. -/
theorem vain_work (r : Router) (job : Job) :
    (job.work r).Honours .vain fun x => (job.values? r).isSome → x.Refused := by
  have hpublish : ∀ {values : Context} {ends : Outcome → Prop}
      {f : Except RouterError Unit → Outcome}, ends (f (.error (.notReady .closed))) →
        (r.publish values >>= fun y => Script.done (f y)).Honours .vain ends := by
    intro values ends f hends
    refine honours_locked (· = .error (.notReady .closed)) trivial trivial ?_ ?_
    · refine honours_ask trivial fun (y : Manager) (hy : y.state = .closed) => ?_
      have hnone : y.resources = none := by simp [Manager.resources, hy]
      rw [hnone, hy]
      exact honours_done rfl
    · rintro _ rfl
      exact hends
  cases job with
  | start files defaults =>
      refine honours_locked (fun _ => True) trivial trivial ?_ fun _ _ hjob => ?_
      · refine Honours.bind (vain_start r.config files defaults) fun x _ => ?_
        cases x <;> exact honours_done trivial
      · simp [Job.values?] at hjob
  | publish values => exact hpublish fun _ => .inl rfl
  | visit phase values =>
      by_cases hphase : r.config.executionPhase = phase
      · rw [Job.work_visit hphase]
        exact hpublish fun _ => .inr rfl
      · rw [Job.work_visit_other hphase]
        refine honours_done fun hjob => ?_
        simp [Job.values?, hphase] at hjob
  | state =>
      refine honours_locked (fun _ => True) trivial trivial ?_ fun _ _ hjob => ?_
      · exact honours_ask trivial fun y _ => honours_done trivial
      · simp [Job.values?] at hjob
  | close =>
      refine honours_ask trivial fun _ _ => honours_ask trivial fun _ _ => ?_
      refine honours_locked (fun _ => True) trivial trivial ?_ fun _ _ hjob => ?_
      · refine honours_ask trivial fun (y : Manager) (hy : y.state = .closed) => ?_
        rw [if_pos (.inl hy)]
        exact honours_done trivial
      · simp [Job.values?] at hjob

end Work

end Sluice
