import Sluice.Proofs.Router.Prospects
import Sluice.Proofs.Router.Reports

/-! # After a router was closed

When the task comes back that closed a router, the manager is closed for good, and whoever has not
come back by then has done nothing to it and never will: a publishing is refused, and closing again
changes nothing.
-/

namespace Sluice

/-- What may be asked of a router that was closed is nothing to the broker and the manager. -/
theorem idle_of_vain {i : Nat} {m m' : Moment} {r : Request} {a : r.Answer}
    (h : Answered i m r a m') (hmay : Agreement.vain.may r) :
    Event.Idle ⟨some i, r.deed a, m.now, m.toGround, m'.toGround⟩ := by
  obtain ⟨met, hmet, rfl⟩ := h
  cases hmet with
  | manager => exact ⟨rfl, rfl⟩
  | lock => exact ⟨rfl, rfl⟩
  | unlock => exact ⟨rfl, rfl⟩
  | shutDown => exact ⟨rfl, rfl⟩
  | interrupt => exact ⟨rfl, rfl⟩
  | _ => exact hmay.elim

/-- What is left before the lock is asked for is honoured as the whole is. -/
theorem Work.Honours.leaves {α : Type} {w w' : Work α} {ends : α → Prop}
    (h : w.Honours .vain ends) (hleaves : w.Leaves w') : w'.Honours .vain ends := by
  induction hleaves with
  | all => exact h
  | raised hleaves hr a ih => exact ih.2 a (by rcases hr with rfl | rfl <;> trivial)

namespace Scene

variable {J α : Type} {T : Terms} {account : J → α → List Event → Prop} {work : J → Work α}
variable {s : Scene J α} {i : Nat}

theorem vain_of_gives {r : Request} {a : r.Answer} (h : s.Gives i r a)
    (hclosed : s.moment.manager.state = .closed) (hmay : Agreement.vain.may r) :
    Agreement.vain.answers r a := by
  cases h with
  | met hrest hmet =>
      cases hmet with
      | manager => exact hclosed
      | _ => trivial
  | ended => exact hmay.elim
  | elapsed => exact hmay.elim

end Scene

namespace Router

variable {r : Router} {s : Life} {i : Nat}

/-- A task has done nothing to the router, and will not as long as the router is closed. -/
structure Vain (r : Router) (s : Life) (i : Nat) : Prop where
  idle : ∀ e ∈ s.moment.own i, e.Idle
  will : s.Follows fun j job w =>
    j = i → w.Honours .vain fun x => (job.values? r).isSome → x.Refused

variable {T : Terms} {account : Job → Outcome → List Event → Prop}

theorem Vain.step (h : r.Vain s i) (hsound : s.Sound T account)
    (hclosed : s.moment.manager.state = .closed) (c : Choice Job) :
    r.Vain (s.step (Job.work r) c) i := by
  refine ⟨?_, h.will.step hsound.regular (fun job _ => Work.vain_work r job) ?_ c⟩
  · by_cases hact : c = .act i
    · subst hact
      have hsame : (s.act i).moment = s.moment → ∀ e ∈ (s.act i).moment.own i, e.Idle :=
        fun hmoment => hmoment ▸ h.idle
      have hnext : ∀ {r : Request} {a : r.Answer}, Answered i s.moment r a (s.act i).moment →
          Agreement.vain.may r → ∀ e ∈ (s.act i).moment.own i, e.Idle := by
        intro r a hanswered hmay e he
        rw [hanswered.own] at he
        rcases List.mem_append.mp he with hold | hnew
        · exact h.idle e hold
        · rw [List.mem_singleton.mp hnew]
          exact idle_of_vain hanswered hmay
      have hpromise : ∀ {state : TaskState Outcome}, s.state? i = some state →
          ∃ job, state.Lifts fun w => Work.Honours .vain
            (fun x => (Job.values? r job).isSome → x.Refused) w := by
        intro state hstate
        obtain ⟨job, hjob⟩ := hsound.job_of_state hstate
        exact ⟨job, (h.will i state job hstate hjob).mono fun w hw => hw rfl⟩
      cases Scene.acts_act hsound i with
      | stays hcan h => exact hsame (congrArg Scene.moment h)
      | returns hstate hto hmoment => exact hsame hmoment
      | answered hstate hgives hto hanswered =>
          obtain ⟨job, hhonours⟩ := hpromise hstate
          exact hnext hanswered hhonours.1
      | rests hstate hmillis hto hmoment => exact hsame hmoment
      | queues hstate hto hmoment => exact hsame hmoment
      | wakes hstate hgives hto hanswered =>
          obtain ⟨job, millis, -, hhonours⟩ := hpromise hstate
          exact hhonours.1.elim
      | granted hstate hto hanswered => exact hnext hanswered trivial
    · rw [Scene.own_step_of_ne (Job.work r) hsound.regular hact]
      exact h.idle
  · intro j job request next a _ _ hhonours hgives hij
    have hasked := hhonours hij
    exact hasked.2 a (Scene.vain_of_gives hgives hclosed hasked.1)

/-- The router is closed for good, and whoever has not come back is to find it closed. -/
structure Shut (r : Router) (s : Life) : Prop where
  manager : s.moment.manager = { state := .closed }
  vain : ∀ i, s.outcome? i = none → s.state? i ≠ some .cancelled → r.Vain s i

theorem Shut.step (h : r.Shut s) (hsound : s.Sound T account) (c : Choice Job) :
    r.Shut (s.step (Job.work r) c) := by
  have hclosed : s.moment.manager.state = .closed := by rw [h.manager]
  refine ⟨?_, fun i hnone hgoes => ?_⟩
  · rcases Scene.manager_step (Job.work r) hsound.regular c with hsame | ⟨i, x, next, -, hstate⟩
    · rw [hsame]
      exact h.manager
    · obtain ⟨job, hjob⟩ := hsound.job_of_state hstate
      have hvain := h.vain i (by rw [Scene.outcome?, hstate]) (by simp [hstate])
      exact (hvain.will i _ job hstate hjob rfl).1.elim
  · refine (h.vain i ?_ ?_).step hsound hclosed c
    · cases hsome : s.outcome? i with
      | none => rfl
      | some x =>
          rcases Scene.outcome_step (Job.work r) hsound.regular hsome c with h | h
          · simp [hnone] at h
          · exact absurd h hgoes
    · exact fun hstopped => hgoes (Scene.cancelled_step hsound.regular hstopped c)

/-- A closed router stays closed, whatever is chosen. -/
theorem shut_life {choices : List (Choice Job)} (h : r.Shut (r.life choices))
    (further : List (Choice Job)) : r.Shut (r.life (choices ++ further)) ∧
      ∀ i, r.Vain (r.life choices) i → r.Vain (r.life (choices ++ further)) i := by
  induction further using List.reverseRecOn with
  | nil => exact ⟨by simpa using h, fun i hi => by simpa using hi⟩
  | append_singleton further c ih =>
      have hsound := sound_report r (choices ++ further)
      have hclosed : (r.life (choices ++ further)).moment.manager.state = .closed := by
        rw [ih.1.manager]
      rw [← List.append_assoc, ← life_append]
      exact ⟨ih.1.step hsound c, fun i hi => (ih.2 i hi).step hsound hclosed c⟩

/-! ### When the task comes back that closed the router -/

/-- A task that closes asks for the lock before it comes back. -/
theorem not_done_of_leaves {w : Work Outcome} (h : (Job.close.work r).Leaves w) :
    ∀ x, w ≠ .done x := by
  have hstands : w = Job.close.work r ∨
      (∃ next, w = Script.ask .interrupt next ∧ ∀ a, ∃ next', next a = Script.ask .lock next') ∨
      ∃ next, w = Script.ask .lock next := by
    induction h with
    | all => exact .inl rfl
    | raised h hr a ih =>
        rcases ih with heq | ⟨next, heq, hnext⟩ | ⟨next, heq⟩
        · cases heq
          exact .inr (.inl ⟨_, rfl, fun _ => ⟨_, rfl⟩⟩)
        · cases heq
          exact .inr (.inr (hnext a))
        · cases heq
          simp at hr
  rintro x rfl
  rcases hstands with heq | ⟨next, heq, -⟩ | ⟨next, heq⟩ <;> cases heq

variable {choices : List (Choice Job)} {asked : List Nat} {c : Nat} {x : Outcome}
variable (hqueued : (r.life choices).Queued (Job.work r) (fun job => (job.values? r).isSome) asked)

include hqueued

/-- Whoever closes a router comes back by giving the lock back. -/
theorem holder_of_returned (hjob : (r.life choices).jobs[c]? = some .close)
    (hgoes : (r.life choices).goesOn c = true)
    (hreturned : ((r.life choices).act c).outcome? c = some x) :
    (r.life choices).station.lock.holder = some c ∧
      ∃ r' a, Answered c (r.life choices).moment r' a ((r.life choices).act c).moment := by
  have hsound := sound_report r choices
  have hback := Scene.goesOn_of_outcome hreturned
  have hinside : ∀ {w : Work Outcome}, w.Once false .inside →
      ((r.life choices).act c).state? c ≠ some (.ready w) := by
    intro w hw hstate
    rw [Scene.goesOn, hstate, Option.any_some, hw.goesOn] at hback
    cases hback
  cases Scene.acts_act hsound c with
  | stays hcan h => simp [h, hgoes] at hback
  | returns hstate hto hmoment => simp [Scene.goesOn, hstate, TaskState.goesOn] at hgoes
  | rests hstate hmillis hto hmoment => simp [Scene.goesOn, hto.state, TaskState.goesOn] at hback
  | queues hstate hto hmoment => simp [Scene.goesOn, hto.state, TaskState.goesOn] at hback
  | wakes hstate hgives hto hanswered =>
      exact absurd hto.state (hinside (hqueued.comes c _ _ hstate hjob _))
  | granted hstate hto hanswered =>
      exact absurd hto.state (hinside ((hqueued.comes c _ _ hstate hjob).2.2 _))
  | @answered request a next hstate hgives hto hanswered =>
      refine ⟨?_, request, a, hanswered⟩
      obtain ⟨honce, hleaves⟩ := hqueued.comes c _ _ hstate hjob
      have hdone : ∃ y, next a = .done y := by
        rw [Scene.goesOn, hto.state, Option.any_some] at hback
        cases hnext : next a with
        | done y => exact ⟨y, rfl⟩
        | ask r' next' => simp [hnext, TaskState.goesOn] at hback
      -- outside the lock nothing is done but to raise the signal and to ask for it
      by_contra hout
      have hholds : (r.life choices).holds c = false := decide_eq_false hout
      rw [Scene.passage, hholds] at honce
      by_cases hasked : c ∈ asked
      · simp only [hasked, if_true, Bool.false_eq_true, if_false] at honce
        cases honce
      · simp only [hasked, if_false, Bool.false_eq_true] at honce
        cases honce with
        | raise hr hnext =>
            obtain ⟨y, hy⟩ := hdone
            exact not_done_of_leaves ((hleaves hasked).raised hr a) y hy
        | enter hnext => exact absurd hto.state (hinside (hnext a))

/-- While a task holds the lock nobody else has done anything who goes on. -/
theorem untouched_of_holder (hholder : (r.life choices).station.lock.holder = some c) {i : Nat}
    (hic : i ≠ c) (hgoes : (r.life choices).goesOn i = true) :
    (r.life choices).Untouched (fun job => (job.values? r).isSome) i := by
  obtain ⟨hmem, hholds, hfirst⟩ := hqueued.ranked.first hholder
  by_cases hasked : i ∈ asked
  · have hbehind := hqueued.ranked.behind
    obtain ⟨ahead, after, rfl⟩ := List.append_of_mem hmem
    rw [List.pairwise_append, List.pairwise_cons] at hbehind hfirst
    rcases List.mem_append.mp hasked with hahead | hafter
    · have hback := hfirst.2.2 i hahead c List.mem_cons_self rfl
      simp [hgoes] at hback
    · exact hbehind.2.1.1 i ((List.mem_cons.mp hafter).resolve_left hic) hholds
  · exact hqueued.ranked.fresh i hasked

/-- Whoever is not done while somebody else holds the lock has yet to ask for it, or to get it. -/
theorem leaves_of_holder (hholder : (r.life choices).station.lock.holder = some c) {i : Nat}
    (hic : i ≠ c) {state : TaskState Outcome} {job : Job}
    (hstate : (r.life choices).state? i = some state) (hgoes : state.goesOn = true)
    (hjob : (r.life choices).jobs[i]? = some job) :
    state.Lifts fun w => (job.work r).Leaves w := by
  have hholds : (r.life choices).holds i = false := by
    rw [Scene.holds, hholder]
    simpa using fun heq => hic heq.symm
  have hcomes := hqueued.comes i state job hstate hjob
  cases state with
  | ready w =>
      refine hcomes.2 fun hasked => ?_
      -- whoever asked and does not hold the lock is in line, or has come back
      have honce := hcomes.1
      rw [Scene.passage, hholds, if_neg (by simp), if_pos hasked] at honce
      rw [honce.cameBack] at hgoes
      cases hgoes
  | resting deadline ticket next =>
      have hsound := sound_report r choices
      obtain ⟨_, hstands⟩ := hsound.standing hstate
      rw [hholds] at hstands
      exact absurd hstands.1 (by simp)
  | inLine next => exact hcomes.2.1
  | finished x => cases hgoes
  | cancelled => trivial

/-- When the task comes back that closed a router, the router is closed for good. -/
theorem shut_of_returned (hjob : (r.life choices).jobs[c]? = some .close)
    (hgoes : (r.life choices).goesOn c = true)
    (hreturned : ((r.life choices).act c).outcome? c = some x) :
    r.Shut ((r.life choices).act c) := by
  have hsound := sound_report r choices
  obtain ⟨hholder, r', a, hanswered⟩ := holder_of_returned hqueued hjob hgoes hreturned
  have hjobs := Scene.jobs_act (r.life choices) c
  refine ⟨?_, fun i hnone hstopped => ?_⟩
  · have hreport := (hsound.act c).outcome (hjobs ▸ hjob) hreturned
    obtain ⟨e, he, hclosed⟩ := hreport.closed rfl
    rw [hanswered.own, List.getLast?_concat] at he
    obtain rfl := Option.some.inj he
    exact hclosed
  · have hic : i ≠ c := by
      rintro rfl
      simp [hreturned] at hnone
    have hsame := Scene.others_act hsound.regular hic
    have hstill : ∀ {state : TaskState Outcome}, (r.life choices).state? i = some state →
        state.goesOn = true := by
      intro state hstate
      have hgoes := (Scene.goesOn_iff (hsame.trans hstate)).mpr
        ⟨hnone, fun heq => hstopped (hsame.trans (heq ▸ hstate))⟩
      rwa [Scene.goesOn, hsame, hstate, Option.any_some] at hgoes
    refine ⟨?_, ?_⟩
    · rw [show (r.life choices).act c = (r.life choices).step (Job.work r) (.act c) from rfl,
        Scene.own_step_of_ne (Job.work r) hsound.regular fun heq => hic (Choice.act.inj heq).symm]
      cases hstate : (r.life choices).state? i with
      | none =>
          have hnew : (r.life choices).schedule.tasks.length ≤ i := by
            simpa [Scene.state?] using hstate
          simp [hsound.fresh i hnew]
      | some state =>
          refine (untouched_of_holder hqueued hholder hic ?_).idle
          rw [Scene.goesOn, hstate, Option.any_some]
          exact hstill hstate
    · intro j state job hstate hjob'
      by_cases hij : j = i
      · subst hij
        rw [hsame] at hstate
        rw [hjobs] at hjob'
        exact (leaves_of_holder hqueued hholder hic hstate (hstill hstate) hjob').mono
          fun w hw _ => (Work.vain_work r job).leaves hw
      · exact TaskState.lifts_of_forall (fun w heq => absurd heq hij) state

end Router

end Sluice
