import Sluice.Proofs.Router.Aftermath
import Sluice.Proofs.Router.HighWaterMark

/-! # Closing is prompt and drops nothing in flight

A router is closed while publishings are under way: one rests because its destination is full, and
the others are in line for the lock. Closing lets them all through, in the order of their calls and
without time passing, whatever the depth of the destination is; the resources are released only when
the last of them has come back, and whoever comes later finds the router closed.
-/

namespace Sluice

namespace Router

variable {r : Router} {s₀ s : Life} {asked₀ asked : List Nat} {i : Nat}

/-- Publishings are under way since some scene: time has stood still since then, and the manager is
what it was, so each of them can count on not being refused and not being too late. -/
structure Underway (r : Router) (s₀ s : Life) : Prop where
  now : s.schedule.now = s₀.schedule.now
  undue : s.Undue
  length : s₀.schedule.tasks.length ≤ s.schedule.tasks.length
  back : ∀ i < s₀.schedule.tasks.length, s₀.goesOn i = false → s.goesOn i = false
  lucky : s.Follows fun i _ w => s₀.goesOn i = true →
    w.Honours (.lucky s₀.schedule.now s₀.moment.manager) Outcome.Hopeful
  kept : ∀ i, s₀.goesOn i = true → s.goesOn i = true → s.moment.manager = s₀.moment.manager

namespace Underway

variable {T : Terms} {account : Job → Outcome → List Event → Prop}
variable (h : Underway r s₀ s)

include h

/-- Whoever is under way is answered so. -/
theorem answers (hgoes₀ : s₀.goesOn i = true) (hgoes : s.goesOn i = true) {request : Request}
    {a : request.Answer} (hgives : s.Gives i request a)
    (hmay : (Agreement.lucky s₀.schedule.now s₀.moment.manager).may request) :
    (Agreement.lucky s₀.schedule.now s₀.moment.manager).answers request a := by
  cases hgives with
  | met hrest hmet =>
      cases hmet with
      | clock => exact h.now
      | manager => exact h.kept i hgoes₀ hgoes
      | rest => simp [Request.isRest] at hrest
      | _ => trivial
  | ended => exact rfl
  | @elapsed millis ticket hnot hover =>
      -- no rest is over, since time has stood still
      rcases hover with rfl | ⟨deadline, next, hstate, hdue⟩
      · exact absurd rfl (hmay.1 ticket)
      · exact absurd (h.undue i deadline ticket next hstate) (Nat.not_lt_of_le hdue)

/-- Whoever holds the lock while a publishing is under way was under way before it. -/
theorem holder (hqueued : s.Queued (Job.work r) (fun job => (job.values? r).isSome) asked)
    (hasked : asked₀ <+: asked) (hknown : ∀ i ∈ asked₀, i < s₀.schedule.tasks.length)
    (hmem : i ∈ asked₀) (hgoes : s.goesOn i = true) {j : Nat}
    (hholder : s.station.lock.holder = some j) : s₀.goesOn j = true := by
  obtain ⟨hj, hholds, hfirst⟩ := hqueued.ranked.first hholder
  obtain ⟨later, rfl⟩ := hasked
  rcases List.mem_append.mp hj with hold | hnew
  · by_contra hback
    rw [Bool.not_eq_true] at hback
    simp [h.back j (hknown j hold) hback] at hholds
  · have hback := (List.pairwise_append.mp hfirst).2.2 i hmem j hnew rfl
    simp [hgoes] at hback

theorem step (hsound : s.Sound T account)
    (hqueued : s.Queued (Job.work r) (fun job => (job.values? r).isSome) asked)
    (hasked : asked₀ <+: asked) (hknown : ∀ i ∈ asked₀, i < s₀.schedule.tasks.length)
    (hmem : ∀ i, s₀.goesOn i = true → i ∈ asked₀) {c : Choice Job}
    (hc : c.isPrompt = true) (hsound' : (s.step (Job.work r) c).Sound T account) :
    Underway r s₀ (s.step (Job.work r) c) := by
  have hpass : ∀ millis, c ≠ .pass millis := by
    rintro millis rfl
    cases hc
  have hgoes : ∀ i < s₀.schedule.tasks.length, s.goesOn i = false →
      (s.step (Job.work r) c).goesOn i = false := fun i hi hback =>
    Scene.goesOn_step hsound.regular (Nat.lt_of_lt_of_le hi h.length) hback c
  refine ⟨(Scene.now_step hsound.regular hpass).trans h.now, h.undue.step hsound.regular hpass, ?_,
    fun i hi hback => hgoes i hi (h.back i hi hback), ?_, fun i hgoes₀ hgoes' => ?_⟩
  · refine Nat.le_trans h.length ?_
    rw [← hsound.jobs, ← hsound'.jobs]
    exact (Scene.jobs_step (Job.work r) s c).length_le
  · refine h.lucky.step hsound.regular (fun job hgoes₀ => ?_) ?_ c
    · exact absurd (Scene.lt_of_goesOn hgoes₀) (Nat.not_lt_of_le h.length)
    · intro i job request next a _ hgoes hlucky hgives hgoes₀
      have hhonours := hlucky hgoes₀
      exact hhonours.2 a (h.answers hgoes₀ hgoes hgives hhonours.1)
  · have hgoing : s.goesOn i = true := by
      by_contra hback
      simp [hgoes i (Scene.lt_of_goesOn hgoes₀) (by simpa using hback)] at hgoes'
    rcases Scene.manager_step (Job.work r) hsound.regular c with hsame | ⟨j, x, next, -, hstate⟩
    · rw [hsame]
      exact h.kept i hgoes₀ hgoing
    · -- whoever replaces the manager holds the lock, and is none of those under way
      obtain ⟨job', hstands⟩ := hsound.standing hstate
      have hholder : s.station.lock.holder = some j := by
        by_contra hout
        rw [Scene.holds, decide_eq_false hout] at hstands
        exact absurd hstands.1 (by simp [Request.isAllowed])
      have hj := h.holder hqueued hasked hknown (hmem i hgoes₀) hgoing hholder
      obtain ⟨job, hjob⟩ := hsound.job_of_state hstate
      exact absurd rfl ((h.lucky j _ job hstate hjob hj).1.2 x)

end Underway

/-! ### The scene in which the router is closed -/

section Still

variable {before : List (Choice Job)}

/-- Whoever rests has drawn a ticket, and can count on something. -/
theorem ticketed_life (r : Router) (choices : List (Choice Job)) :
    (r.life choices).Ticketed fun _ => Work.Hopes r.config.admission Outcome.Hopeful := by
  induction choices using List.reverseRecOn with
  | nil => exact Scene.ticketed_empty
  | append_singleton choices c ih =>
      rw [← life_append]
      exact ih.step (sound_report r choices).regular (Work.guarded_work r) c

theorem hopes_of_resting {deadline : Nat} {ticket : Option Nat} {next : Bool → Work Outcome}
    (hstate : (r.life before).state? i = some (.resting deadline ticket next)) :
    0 < r.config.admission.pollInterval ∧ ∃ millis, millis ≠ 0 ∧
      Work.Hopes r.config.admission Outcome.Hopeful (Script.ask (.rest millis ticket) next) := by
  obtain ⟨job, hjob⟩ := (sound_report r before).job_of_state hstate
  obtain ⟨millis, hmillis, hguarded⟩ :=
    ticketed_life r before _ (Nat.lt_succ_self _) i _ job hstate hjob
  have hhopes := hguarded.2.1 rfl
  obtain ⟨_, _, heq⟩ := hhopes.rests
  obtain ⟨rfl, -⟩ := Request.rest.inj (Script.ask.inj heq).1
  exact ⟨Nat.pos_of_ne_zero hmillis, _, hmillis, hhopes⟩

variable (hstill : (r.life before).isStill = true)

include hstill

/-- If nobody can go on, then whoever holds the lock rests. -/
theorem resting_of_holder (hholder : (r.life before).station.lock.holder = some i) :
    ∃ deadline ticket next, (r.life before).state? i = some (.resting deadline ticket next) := by
  have hsound := sound_report r before
  obtain ⟨state, hstate⟩ := Scene.exists_state (hsound.holder i hholder)
  obtain ⟨job, hstands⟩ := hsound.standing hstate
  rw [Scene.holds, decide_eq_true hholder] at hstands
  have hcan := Scene.canAct_of_still hstill i
  rw [Scene.canAct, hstate] at hcan
  cases state with
  | ready w => simp at hcan
  | resting deadline ticket next => exact ⟨deadline, ticket, next, hstate⟩
  | inLine next => simp [hholder] at hcan
  | finished x => exact absurd hstands.1 (by simp)
  | cancelled => exact absurd hstands (by simp [Terms.Stands])

/-- If nobody can go on, then whoever has not come back holds the lock and rests, or is in line. -/
theorem waiting_of_goesOn (hgoes : (r.life before).goesOn i = true) :
    ((r.life before).station.lock.holder = some i ∧ ∃ deadline ticket next,
        (r.life before).state? i = some (.resting deadline ticket next)) ∨
      ∃ next k, (r.life before).state? i = some (.inLine next) ∧
        (r.life before).station.lock.holder = some k := by
  have hsound := sound_report r before
  obtain ⟨state, hstate⟩ := Scene.exists_state (Scene.lt_of_goesOn hgoes)
  have hcan := Scene.canAct_of_still hstill i
  rw [Scene.canAct, hstate] at hcan
  rw [Scene.goesOn, hstate, Option.any_some] at hgoes
  cases state with
  | ready w => simp at hcan
  | resting deadline ticket next =>
      obtain ⟨job, hstands⟩ := hsound.standing hstate
      exact .inl ⟨of_decide_eq_true hstands.1, deadline, ticket, next, hstate⟩
  | inLine next =>
      obtain ⟨t, ht, hwaits⟩ := Option.map_eq_some_iff.mp hstate
      cases hholder : (r.life before).station.lock.holder with
      | some k => exact .inr ⟨next, k, hstate, rfl⟩
      | none =>
          have hempty := hsound.orderly.free hholder
          rcases hsound.waits i t next ht hwaits with h | h
          · simp [hholder] at h
          · simp [hempty] at h
  | finished x => cases hgoes
  | cancelled => cases hgoes

theorem mem_asked (hqueued : (r.life before).Queued (Job.work r)
    (fun job => (job.values? r).isSome) asked) (hgoes : (r.life before).goesOn i = true) :
    i ∈ asked := by
  rcases waiting_of_goesOn hstill hgoes with ⟨hholder, -⟩ | ⟨next, k, hstate, -⟩
  · exact (hqueued.ranked.first hholder).1
  · obtain ⟨job, hjob⟩ := (sound_report r before).job_of_state hstate
    exact (hqueued.comes i _ job hstate hjob).1

/-- Publishings are under way from the scene on in which nobody can go on. -/
theorem underway_of_still (hready : (r.life before).moment.manager.resources.isSome)
    (hpublishes : ∀ i, (r.life before).goesOn i = true →
      (r.published? (r.life before) i).isSome = true)
    (hqueued : (r.life before).Queued (Job.work r) (fun job => (job.values? r).isSome) asked) :
    Underway r (r.life before) (r.life before) := by
  refine ⟨rfl, Scene.undue_of_still hstill, Nat.le_refl _, fun _ _ hback => hback, ?_,
    fun _ _ _ => rfl⟩
  intro i state job hstate hjob
  by_cases hgoes : (r.life before).goesOn i = true
  · rcases waiting_of_goesOn hstill hgoes with ⟨-, deadline, ticket, next, hrests⟩ |
      ⟨next, k, hwaits, hholder⟩
    · obtain rfl := Option.some.inj (hstate.symm.trans hrests)
      obtain ⟨hpoll, millis, hmillis, hhopes⟩ := hopes_of_resting hrests
      exact ⟨millis, hmillis, fun _ => hhopes.honours hpoll _ _ hready⟩
    · obtain rfl := Option.some.inj (hstate.symm.trans hwaits)
      obtain ⟨deadline, ticket, next', hrests⟩ := resting_of_holder hstill hholder
      obtain ⟨hpoll, millis, -, hhopes⟩ := hopes_of_resting hrests
      -- who is in line has done nothing but ask for the lock
      have hvalues : (job.values? r).isSome = true := by
        have hpublished := hpublishes i hgoes
        rwa [published?, hjob, Option.bind_some] at hpublished
      have hwhole := (hqueued.comes i _ job hwaits hjob).2.1.eq_of_lock (locks_of_values hvalues)
      intro _
      rw [hwhole]
      exact Work.lucky_work hpoll hhopes.timeout hready hvalues
  · exact TaskState.lifts_of_forall (fun w hyes => absurd hyes hgoes) state

end Still

/-! ### From the closing on -/

/-- How far a closing has come: it is on its way to shut the station down, or through with it; and
it has not come back, or the router is closed for good. -/
structure Closing (r : Router) (c : Nat) (s : Life) : Prop where
  job : s.jobs[c]? = some .close
  winding : ∃ next, s.Winding c next
  shut : s.goesOn c = true ∨ r.Shut s

section Closing

variable {choices : List (Choice Job)} {c : Nat}

theorem closing_begin (r : Router) (before : List (Choice Job)) :
    r.Closing (r.life before).schedule.tasks.length (r.life (before ++ [.begin .close])) := by
  have hstate : (r.life (before ++ [.begin .close])).state? (r.life before).schedule.tasks.length =
      some (.ready (Job.close.work r)) := by
    rw [← life_append]
    exact (Scene.state?_begin (r.life before) Job.close _).trans (if_pos rfl)
  refine ⟨?_, ⟨_, .called hstate⟩, .inl ?_⟩
  · rw [← life_append, ← (sound_report r before).jobs]
    exact List.getElem?_concat_length
  · rw [Scene.goesOn, hstate]
    rfl

theorem Closing.step (h : r.Closing c (r.life choices)) {choice : Choice Job}
    (hprompt : choice.isPrompt = true) : r.Closing c (r.life (choices ++ [choice])) := by
  have hsound := sound_report r choices
  have hcancel : ∀ i, choice ≠ .cancel i := by
    rintro i rfl
    cases hprompt
  rw [← life_append]
  refine ⟨?_, ?_, ?_⟩
  · obtain ⟨begun, hjobs⟩ := Scene.jobs_step (Job.work r) (r.life choices) choice
    change ((r.life choices).step (Job.work r) choice).jobs[c]? = _
    rw [← hjobs, List.getElem?_append_left (List.getElem?_eq_some_iff.mp h.job).1]
    exact h.job
  · obtain ⟨next, hwinding⟩ := h.winding
    exact ⟨next, hwinding.step hsound.regular (ticketed_life r choices) (Work.guarded_work r)
      (hcancel c)⟩
  · rcases h.shut with hgoes | hshut
    · by_cases hlater : ((r.life choices).step (Job.work r) choice).goesOn c = true
      · exact .inl hlater
      right
      obtain rfl := Scene.act_of_returned hsound.regular hgoes (by simpa using hlater) (hcancel c)
      -- the task has moved and does not go on, so it has come back
      have hlength : c < ((r.life choices).act c).schedule.tasks.length := by
        rw [← (hsound.act c).jobs, Scene.jobs_act, hsound.jobs]
        exact Scene.lt_of_goesOn hgoes
      obtain ⟨state, hstate⟩ := Scene.exists_state hlength
      have hreturned : ((r.life choices).act c).outcome? c ≠ none := by
        intro hnone
        refine hlater ((Scene.goesOn_iff hstate).mpr ⟨hnone, ?_⟩)
        rintro rfl
        have hbefore := Scene.cancelled_of_step (Job.work r) hsound.regular hcancel hstate
        simp [Scene.goesOn, hbefore, TaskState.goesOn] at hgoes
      obtain ⟨x, hx⟩ := Option.ne_none_iff_exists'.mp hreturned
      obtain ⟨asked, hqueued, -⟩ := queued_life r choices
      exact shut_of_returned hqueued h.job hgoes hx
    · exact .inr (hshut.step hsound choice)

theorem closing_life (r : Router) (before : List (Choice Job)) {later : List (Choice Job)}
    (hlater : ∀ choice ∈ later, choice.isPrompt = true) :
    r.Closing (r.life before).schedule.tasks.length
      (r.life (before ++ .begin .close :: later)) := by
  induction later using List.reverseRecOn with
  | nil => exact closing_begin r before
  | append_singleton later choice ih =>
      have hupto := ih fun choice hmem => hlater choice (List.mem_append_left _ hmem)
      have hstep := hupto.step (hlater choice (List.mem_append_right _ List.mem_cons_self))
      simpa using hstep

end Closing

section Underway

variable {before : List (Choice Job)}

/-- Publishings that were under way when nobody could go on can count on the same ever since. -/
theorem underway_life
    (hstill : (r.life before).isStill = true)
    (hready : (r.life before).moment.manager.resources.isSome)
    (hpublishes : ∀ i, (r.life before).goesOn i = true →
      (r.published? (r.life before) i).isSome = true)
    {later : List (Choice Job)} (hlater : ∀ choice ∈ later, choice.isPrompt = true) :
    Underway r (r.life before) (r.life (before ++ later)) ∧
      ∃ asked₀ asked, asked₀ <+: asked ∧
        (∀ i ∈ asked₀, i < (r.life before).schedule.tasks.length) ∧
        (∀ i, (r.life before).goesOn i = true → i ∈ asked₀) ∧
        (r.life (before ++ later)).Queued (Job.work r)
          (fun job => (job.values? r).isSome) asked := by
  obtain ⟨asked₀, hqueued₀, hcalled₀⟩ := queued_life r before
  have hknown := hqueued₀.known
  have hmem : ∀ i, (r.life before).goesOn i = true → i ∈ asked₀ :=
    fun i hgoes => mem_asked hstill hqueued₀ hgoes
  have hfurther : ∀ later : List (Choice Job), ∃ asked, asked₀ <+: asked ∧
      (r.life (before ++ later)).Queued (Job.work r)
        (fun job => (job.values? r).isSome) asked := by
    intro later
    obtain ⟨asked, hasked, hqueued, -⟩ := hqueued₀.run hcalled₀ (sound_report r before)
      (fun _ => locks_of_values) (Work.once_work r)
      (fun job _ _ hown => Gate.abides_report job hown) later
    exact ⟨asked, hasked, life_append r before later ▸ hqueued⟩
  obtain ⟨asked, hasked, hqueued⟩ := hfurther later
  refine ⟨?_, asked₀, asked, hasked, hknown, hmem, hqueued⟩
  clear hasked hqueued
  induction later using List.reverseRecOn with
  | nil =>
      rw [List.append_nil]
      exact underway_of_still hstill hready hpublishes hqueued₀
  | append_singleton later choice ih =>
      have hupto := ih fun choice hmem => hlater choice (List.mem_append_left _ hmem)
      have hprompt := hlater choice (List.mem_append_right _ List.mem_cons_self)
      obtain ⟨asked, hasked, hqueued⟩ := hfurther later
      have hsound' := sound_report r (before ++ (later ++ [choice]))
      rw [← List.append_assoc, ← life_append] at hsound' ⊢
      exact hupto.step (sound_report r (before ++ later)) hqueued hasked hknown hmem hprompt hsound'

end Underway

/-! ### Behind the closing -/

section Behind

variable {before later : List (Choice Job)} {c : Nat}

/-- A publishing that has done nothing has not come back. -/
theorem outcome_of_idle {T : Terms} (hsound : s.Sound T (Job.Reports r))
    (hpublishes : ∀ job, s.jobs[i]? = some job → (job.values? r).isSome = true)
    (hown : s.moment.own i = []) : s.outcome? i = none := by
  cases houtcome : s.outcome? i with
  | none => rfl
  | some x =>
      obtain ⟨job, hjob⟩ := hsound.job_of_outcome houtcome
      obtain ⟨values, hvalues⟩ := Option.isSome_iff_exists.mp (hpublishes job hjob)
      obtain ⟨y, -, haccount, -⟩ := (hsound.outcome hjob houtcome).excused values hvalues
      rw [hown] at haccount
      cases haccount with
      | notReady _ _ hsettled => simpa using hsettled.last
      | failed _ _ hsettled => simpa using hsettled.last
      | sent _ _ _ hsettled => simpa using hsettled.last

theorem refused_of_vain {x : Outcome} (h : r.Vain s i) (hpublishes : (r.published? s i).isSome)
    (houtcome : s.outcome? i = some x) : x.Refused := by
  obtain ⟨values, hvalues⟩ := Option.isSome_iff_exists.mp hpublishes
  obtain ⟨job, hjob, hvalues⟩ := Option.bind_eq_some_iff.mp hvalues
  have hdone : Work.Honours .vain (fun x => (job.values? r).isSome → x.Refused) (.done x) :=
    h.will.outcome hjob houtcome rfl
  exact hdone (by simp [hvalues])

/-- As long as a closing goes on, whoever asks for the lock behind it has done nothing. -/
theorem untouched_behind (hc : c ∈ (r.life before).station.lock.members)
    (hi : i ∉ (r.life before).station.lock.members)
    (hnone : (r.life before).outcome? i = none)
    (hstopped : (r.life before).state? i ≠ some .cancelled) (later : List (Choice Job))
    (hgoes : (r.life (before ++ later)).goesOn c = true) :
    (r.life (before ++ later)).Untouched (fun job => (job.values? r).isSome) i := by
  obtain ⟨asked, hqueued, hcalled⟩ := queued_life r before
  rw [← hqueued.ranked.queue] at hc hi
  have hbehind : i ∉ asked := by
    intro hasked
    refine hi (List.mem_filter.mpr ⟨hasked, ?_⟩)
    obtain ⟨state, hstate⟩ := Scene.exists_state (hqueued.known i hasked)
    exact (Scene.goesOn_iff hstate).mpr ⟨hnone, fun heq => hstopped (heq ▸ hstate)⟩
  obtain ⟨_, ⟨more, rfl⟩, hlast, -⟩ := hqueued.run hcalled (sound_report r before)
    (fun _ => locks_of_values) (Work.once_work r)
    (fun job _ _ hown => Gate.abides_report job hown) later
  rw [life_append] at hlast
  by_cases hmore : i ∈ more
  · have hlater := (List.pairwise_append.mp hlast.ranked.behind).2.2
    exact hlater c (List.mem_filter.mp hc).1 i hmore hgoes
  · exact hlast.ranked.fresh i fun hasked => (List.mem_append.mp hasked).elim hbehind hmore

/-- A publishing that asks for the lock behind a closing does nothing before the closing has come
back, and then finds the router closed. -/
theorem vain_behind (hclosing : r.Closing c (r.life before))
    (hc : c ∈ (r.life before).station.lock.members)
    (hi : i ∉ (r.life before).station.lock.members)
    (hnone : (r.life before).outcome? i = none)
    (hstopped : (r.life before).state? i ≠ some .cancelled)
    (hlater : ∀ choice ∈ later, choice.isPrompt = true)
    (hpublishes : ∀ job, (r.life (before ++ later)).jobs[i]? = some job →
      (job.values? r).isSome = true) :
    r.Closing c (r.life (before ++ later)) ∧
      (r.life (before ++ later)).state? i ≠ some .cancelled ∧
      ((r.life (before ++ later)).goesOn c = true ∨ r.Vain (r.life (before ++ later)) i) := by
  have hic : i ≠ c := fun heq => hi (heq ▸ hc)
  induction later using List.reverseRecOn with
  | nil =>
      rw [List.append_nil]
      obtain ⟨asked, hqueued, -⟩ := queued_life r before
      rw [← hqueued.ranked.queue] at hc
      exact ⟨hclosing, hstopped, .inl (List.mem_filter.mp hc).2⟩
  | append_singleton later choice ih =>
      have hprompt := hlater choice (List.mem_append_right _ List.mem_cons_self)
      have hsound := sound_report r (before ++ later)
      have hcancel : ∀ j, choice ≠ .cancel j := by
        rintro j rfl
        cases hprompt
      rw [← List.append_assoc, ← life_append] at hpublishes ⊢
      change (∀ job, ((r.life (before ++ later)).step (Job.work r) choice).jobs[i]? = some job →
        (job.values? r).isSome = true) at hpublishes
      obtain ⟨begun, hjobs⟩ := Scene.jobs_step (Job.work r) (r.life (before ++ later)) choice
      obtain ⟨hupto, hgoing, hvain⟩ := ih
        (fun choice hmem => hlater choice (List.mem_append_left _ hmem)) fun job hjob => by
          refine hpublishes job ?_
          rw [← hjobs, List.getElem?_append_left (List.getElem?_eq_some_iff.mp hjob).1]
          exact hjob
      have hnext := hupto.step hprompt
      rw [← life_append] at hnext
      have hgoing' : ((r.life (before ++ later)).step (Job.work r) choice).state? i ≠
          some .cancelled :=
        fun hstate => hgoing (Scene.cancelled_of_step (Job.work r) hsound.regular hcancel hstate)
      refine ⟨hnext, hgoing', ?_⟩
      by_cases hgoes : (r.life (before ++ later)).goesOn c = true
      · refine or_iff_not_imp_left.mpr fun hback => ?_
        refine (hnext.shut.resolve_left hback).vain i ?_ hgoing'
        -- until the closing came back just now, nothing was done behind it
        have huntouched := untouched_behind hc hi hnone hstopped later hgoes
        obtain rfl := Scene.act_of_returned hsound.regular hgoes (by simpa using hback) (hcancel c)
        refine outcome_of_idle (hsound.act c) hpublishes ?_
        refine (Scene.own_step_of_ne (Job.work r) hsound.regular
          fun heq => hic (Choice.act.inj heq).symm).trans ?_
        cases hjob : (r.life (before ++ later)).jobs[i]? with
        | none => exact hsound.fresh i (hsound.jobs ▸ List.getElem?_eq_none_iff.mp hjob)
        | some job =>
            refine huntouched.nothing job hjob (hpublishes job ?_)
            exact (congrArg (·[i]?) (Scene.jobs_act _ c)).trans hjob
      · have hshut := hupto.shut.resolve_left hgoes
        have hclosed : (r.life (before ++ later)).moment.manager.state = .closed := by
          rw [hshut.manager]
        exact .inr ((hvain.resolve_left hgoes).step hsound hclosed choice)

end Behind

/-! ### Everybody comes back -/

section Back

variable {before later : List (Choice Job)} {c : Nat}

/-- Whoever stands as one that was stopped was stopped before, and has done nothing since. -/
theorem stopped_life (before : List (Choice Job))
    (hlater : ∀ choice ∈ later, choice.isPrompt = true)
    (hstopped : (r.life (before ++ later)).state? i = some .cancelled) :
    (r.life before).state? i = some .cancelled ∧
      (r.life (before ++ later)).moment.own i = (r.life before).moment.own i := by
  induction later using List.reverseRecOn with
  | nil =>
      rw [List.append_nil] at hstopped ⊢
      exact ⟨hstopped, rfl⟩
  | append_singleton later choice ih =>
      have hsound := sound_report r (before ++ later)
      have hprompt := hlater choice (List.mem_append_right _ List.mem_cons_self)
      have hcancel : ∀ j, choice ≠ .cancel j := by
        rintro j rfl
        cases hprompt
      rw [← List.append_assoc, ← life_append] at hstopped ⊢
      have hupto := Scene.cancelled_of_step (Job.work r) hsound.regular hcancel hstopped
      obtain ⟨hbefore, hown⟩ := ih (fun choice hmem => hlater choice (List.mem_append_left _ hmem))
        hupto
      exact ⟨hbefore, (Scene.own_step_of_cancelled hsound.regular hupto choice).trans hown⟩

theorem isPublished_of_hopeful {values : Context} {m : Message} {x : Outcome} {own : List Event}
    {y : Except RouterError Unit} (hx : x = .routed y ∨ x = .visited (y.map fun _ => true))
    (hopeful : x.Hopeful) (haccount : Account r values own y) (hexcused : Excused r values y)
    (hprepare : r.prepare values = .ok m) (hfault : ¬ Faulted own) : x.isPublished = true := by
  have hhope : Sluice.Hopeful y := by
    rcases hx with rfl | rfl
    · exact hopeful
    · cases y with
      | ok u => trivial
      | error e => exact hopeful
  cases hexcused with
  | sent => rcases hx with rfl | rfl <;> rfl
  | unprepared h => simp [hprepare] at h
  | faulted h => exact absurd (haccount.faulted h) hfault
  | late h => simp [hhope.1] at h
  | notReady state => exact absurd rfl (hhope.2 state)

/-- If its message can be made and it uses up no fault, a publishing that is under way succeeds. -/
theorem published_of_underway {T : Terms} {values : Context} {m : Message} {x : Outcome}
    (hunder : Underway r s₀ s) (hsound : s.Sound T (Job.Reports r))
    (hgoes₀ : s₀.goesOn i = true) (hvalues : r.published? s i = some values)
    (hprepare : r.prepare values = .ok m) (hfault : ¬ Faulted (s.moment.own i))
    (houtcome : s.outcome? i = some x) : x.isPublished = true := by
  obtain ⟨job, hjob, hvalues⟩ := Option.bind_eq_some_iff.mp hvalues
  obtain ⟨y, hx, haccount, hexcused⟩ := (hsound.outcome hjob houtcome).excused values hvalues
  have hopeful : x.Hopeful := hunder.lucky.outcome hjob houtcome hgoes₀
  exact isPublished_of_hopeful hx hopeful haccount hexcused hprepare hfault

/-- Once a closing has come as far as it can, everybody has come back or was stopped. -/
theorem Closing.over_of_still {choices : List (Choice Job)} (h : r.Closing c (r.life choices))
    (hstill : (r.life choices).isStill = true) (hi : i < (r.life choices).schedule.tasks.length) :
    (r.life choices).state? i = some .cancelled ∨
      ∃ x, (r.life choices).state? i = some (.finished x) := by
  obtain ⟨next, hwinding⟩ := h.winding
  have hidle := hwinding.idle_of_still (sound_report r choices) hstill
  obtain ⟨state, hstate⟩ := Scene.exists_state hi
  obtain ⟨t, ht, rfl⟩ := Option.map_eq_some_iff.mp hstate
  have hover := List.all_eq_true.mp hidle t (List.mem_of_getElem? ht)
  rw [hstate]
  cases hstands : t.state with
  | finished x => exact .inr ⟨x, rfl⟩
  | cancelled => exact .inl rfl
  | _ => simp [hstands] at hover

end Back

/-- What becomes of a router that is closed while publishings are under way, in every scene that
comes of it without time passing and without anybody being stopped: `s₀` is the scene in which
closing begins, with a task of the next number. -/
structure ClosesPromptly (r : Router) (s₀ : Life) (calls : List Nat) (s : Life) : Prop where
  unhurried : s.schedule.now = s₀.schedule.now
  /-- Nobody can go on and on. -/
  prompt : Acc Scene.Onward s
  /-- As long as tasks take turns, there comes a scene in which nobody can go on. -/
  settles : ∃ turns : List Nat, (s.run (Job.work r) (turns.map .act)).isStill = true
  /-- When nobody can go on, everybody has come back who was not stopped before. -/
  finished : s.isStill = true → ∀ i < s.schedule.tasks.length,
    s₀.state? i = some .cancelled ∨ ∃ x, s.state? i = some (.finished x)
  /-- As long as one of the publishings is under way, the resources are kept, and nobody who was
  begun with the closing or after it does anything. -/
  kept : ∀ i, s₀.goesOn i = true → s.goesOn i = true →
    s.moment.manager = s₀.moment.manager ∧
      ∀ j, s₀.schedule.tasks.length ≤ j → ∀ e ∈ s.moment.own j, e.Idle
  /-- If its message can be made and it uses up no fault, a publishing succeeds. -/
  published : ∀ i values m x, s₀.goesOn i = true → r.published? s i = some values →
    r.prepare values = .ok m → ¬ Faulted (s.moment.own i) → s.outcome? i = some x →
      x.isPublished = true
  /-- Whoever succeeded has delivered a message. -/
  delivered : ∀ i x, (r.published? s i).isSome → s.outcome? i = some x →
    (x.isPublished = true ↔ i ∈ s.deliveries.map Prod.fst)
  carried : ∀ d ∈ s.deliveries, ∃ values, r.published? s d.1 = some values ∧
    d.2.message.Carries r values
  /-- Messages are delivered in the order of the calls. -/
  ordered : (s.deliveries.map Prod.fst).Sublist (r.publishings s calls)
  /-- When nobody can go on, as many handles have been closed as were opened, unless somebody left
  one open who was stopped before. -/
  released : s.isStill = true →
    (∀ i, s₀.state? i = some .cancelled → Tallied (s₀.moment.own i)) →
      ∀ kind, gained kind s.ventures = 0
  /-- Whoever asks for the lock behind the closing does nothing, and every publishing among them is
  refused. -/
  behind : s₀.schedule.tasks.length ∈ s.station.lock.members →
    ∀ i, i ∉ s.station.lock.members → s.outcome? i = none → s.state? i ≠ some .cancelled →
      ∀ further : List (Choice Job), (∀ choice ∈ further, choice.isPrompt = true) →
        (r.published? (s.run (Job.work r) further) i).isSome →
          (∀ e ∈ (s.run (Job.work r) further).moment.own i, e.Idle) ∧
          ∀ y, (s.run (Job.work r) further).outcome? i = some y → y.Refused
  /-- Once the closing has come back, the router is closed for good, whatever is chosen. Whoever has
  not come back by then does nothing to it, and every publishing among them is refused. -/
  closed : ∀ x, s.outcome? s₀.schedule.tasks.length = some x → ∀ further,
    (s.run (Job.work r) further).moment.manager = { state := .closed } ∧
      ∀ i, s.outcome? i = none → s.state? i ≠ some .cancelled →
        (∀ e ∈ (s.run (Job.work r) further).moment.own i, e.Idle) ∧
        ∀ y, (r.published? (s.run (Job.work r) further) i).isSome →
          (s.run (Job.work r) further).outcome? i = some y → y.Refused

section Promptly

variable {choices : List (Choice Job)} {c : Nat}

/-- As long as somebody goes on who asked for the lock before, nobody does anything who did not. -/
theorem idle_of_underway (hqueued : s.Queued (Job.work r) (fun job => (job.values? r).isSome) asked)
    (hasked : asked₀ <+: asked) (hmem : i ∈ asked₀) (hc : c ∉ asked₀)
    (hgoes : s.goesOn i = true) : ∀ e ∈ s.moment.own c, e.Idle := by
  obtain ⟨later, rfl⟩ := hasked
  by_cases hlater : c ∈ later
  · exact ((List.pairwise_append.mp hqueued.ranked.behind).2.2 i hmem c hlater hgoes).idle
  · exact (hqueued.ranked.fresh c fun hall => (List.mem_append.mp hall).elim hc hlater).idle

/-- Whoever asks for the lock behind a closing does nothing, and is refused. -/
theorem refused_behind (hclosing : r.Closing c (r.life choices))
    (hc : c ∈ (r.life choices).station.lock.members)
    (hi : i ∉ (r.life choices).station.lock.members)
    (hnone : (r.life choices).outcome? i = none)
    (hstopped : (r.life choices).state? i ≠ some .cancelled) {further : List (Choice Job)}
    (hfurther : ∀ choice ∈ further, choice.isPrompt = true)
    (hpublishes : (r.published? (r.life (choices ++ further)) i).isSome) :
    (∀ e ∈ (r.life (choices ++ further)).moment.own i, e.Idle) ∧
      ∀ y, (r.life (choices ++ further)).outcome? i = some y → y.Refused := by
  have hvalues : ∀ job, (r.life (choices ++ further)).jobs[i]? = some job →
      (job.values? r).isSome = true := by
    intro job hjob
    rwa [published?, hjob, Option.bind_some] at hpublishes
  obtain ⟨-, -, hgoes | hvain⟩ := vain_behind hclosing hc hi hnone hstopped hfurther hvalues
  · have huntouched := untouched_behind hc hi hnone hstopped further hgoes
    refine ⟨huntouched.idle, fun y hy => ?_⟩
    obtain ⟨values, hvalues'⟩ := Option.isSome_iff_exists.mp hpublishes
    obtain ⟨job, hjob, -⟩ := Option.bind_eq_some_iff.mp hvalues'
    have hown := huntouched.nothing job hjob (hvalues job hjob)
    rw [outcome_of_idle (sound_report r (choices ++ further)) hvalues hown] at hy
    cases hy
  · exact ⟨hvain.idle, fun y => refused_of_vain hvain hpublishes⟩

/-- Once a closing has come back, the router is closed for good. -/
theorem refused_after (hclosing : r.Closing c (r.life choices)) {x : Outcome}
    (hback : (r.life choices).outcome? c = some x) (further : List (Choice Job)) :
    (r.life (choices ++ further)).moment.manager = { state := .closed } ∧
      ∀ i, (r.life choices).outcome? i = none → (r.life choices).state? i ≠ some .cancelled →
        (∀ e ∈ (r.life (choices ++ further)).moment.own i, e.Idle) ∧
        ∀ y, (r.published? (r.life (choices ++ further)) i).isSome →
          (r.life (choices ++ further)).outcome? i = some y → y.Refused := by
  have hshut := hclosing.shut.resolve_left (by simp [Scene.goesOn_of_outcome hback])
  obtain ⟨hlast, hkept⟩ := shut_life hshut further
  refine ⟨hlast.manager, fun i hnone hstopped => ?_⟩
  have hvain := hkept i (hshut.vain i hnone hstopped)
  exact ⟨hvain.idle, fun y => refused_of_vain hvain⟩

/-- Once a closing has come as far as it can, all handles are closed that anybody opened. -/
theorem released_of_still (hclosing : r.Closing c (r.life choices))
    (hstill : (r.life choices).isStill = true)
    (hfinished : ∃ x, (r.life choices).state? c = some (.finished x))
    (hstopped : ∀ i, (r.life choices).state? i = some .cancelled →
      Tallied ((r.life choices).moment.own i)) (kind : HandleKind) :
    gained kind (r.life choices).ventures = 0 := by
  obtain ⟨x, hx⟩ := hfinished
  have hback : (r.life choices).goesOn c = false := by
    rw [Scene.goesOn, hx]
    rfl
  have hshut := hclosing.shut.resolve_left (by simp [hback])
  rw [gained_life (fun i hi => ?_) kind, hshut.manager]
  · rfl
  · have hsound := sound_report r choices
    rcases hclosing.over_of_still hstill hi with hcancelled | ⟨x, hx⟩
    · exact hstopped i hcancelled
    · obtain ⟨job, hjob⟩ := hsound.job_of_state hx
      exact (hsound.outcome hjob (by rw [Scene.outcome?, hx])).tallied

end Promptly

/-- Closing a ready router while publishings are under way, one of which may rest and the others be
in line, is prompt and drops nothing: whatever the depth of the destination is, whatever others do,
and however tasks take turns. -/
theorem closes_promptly (r : Router) (before later : List (Choice Job))
    (hready : (r.life before).moment.manager.resources.isSome = true)
    (hstill : (r.life before).isStill = true)
    (hpublishes : ∀ i < (r.life before).schedule.tasks.length, (r.life before).goesOn i = true →
      (r.published? (r.life before) i).isSome = true)
    (hlater : ∀ choice ∈ later, choice.isPrompt = true) :
    r.ClosesPromptly (r.life before) (r.calls (before ++ .begin .close :: later))
      (r.life (before ++ .begin .close :: later)) := by
  have hclosing := closing_life r before hlater
  have hprompt : ∀ choice ∈ Choice.begin Job.close :: later, choice.isPrompt = true :=
    List.forall_mem_cons.mpr ⟨rfl, hlater⟩
  obtain ⟨hunder, asked₀, asked, hasked, hknown, hmem, hqueued⟩ :=
    underway_life hstill hready (fun i hgoes => hpublishes i (Scene.lt_of_goesOn hgoes) hgoes)
      hprompt
  obtain ⟨_, hqueued', hcalled⟩ := queued_life r (before ++ .begin .close :: later)
  have hsound := sound_report r (before ++ .begin .close :: later)
  have hstopped : ∀ i, (r.life (before ++ .begin .close :: later)).state? i = some .cancelled →
      (r.life before).state? i = some .cancelled ∧
        (r.life (before ++ .begin .close :: later)).moment.own i = (r.life before).moment.own i :=
    fun i => stopped_life before hprompt
  generalize before ++ .begin .close :: later = choices at *
  have hfinished : (r.life choices).isStill = true →
      ∀ i < (r.life choices).schedule.tasks.length,
        (r.life before).state? i = some .cancelled ∨
          ∃ x, (r.life choices).state? i = some (.finished x) :=
    fun hstill' i hi => (hclosing.over_of_still hstill' hi).imp_left fun h => (hstopped i h).1
  refine {
    unhurried := hunder.now
    prompt := Scene.acc_onward hsound
    settles := Scene.leads_still (Job.work r) hsound
    finished := hfinished
    kept := fun i hgoes₀ hgoes => ⟨hunder.kept i hgoes₀ hgoes, fun j hj =>
      idle_of_underway hqueued hasked (hmem i hgoes₀)
        (fun hknew => absurd (hknown j hknew) (Nat.not_lt_of_le hj)) hgoes⟩
    published := fun i values m x hgoes₀ hvalues hprepare hfault houtcome =>
      published_of_underway hunder hsound hgoes₀ hvalues hprepare hfault houtcome
    delivered := fun i x => isPublished_iff hqueued
    carried := fun d hd => carries_of_delivery hqueued hd
    ordered := publishings_asked hcalled ▸ deliveries_sublist hqueued'
    released := fun hstill' htallied kind => ?_
    behind := fun hc i hi hnone hstopped' further hfurther => ?_
    closed := fun x hx further => ?_ }
  · refine released_of_still hclosing hstill' ?_ (fun i hi => ?_) kind
    · -- whoever was stopped before was begun before the closing was
      have hlt := hsound.jobs ▸ (List.getElem?_eq_some_iff.mp hclosing.job).1
      refine (hfinished hstill' _ hlt).resolve_left fun h => ?_
      exact Nat.lt_irrefl _ (Scene.lt_of_isSome (Option.isSome_of_eq_some h))
    · obtain ⟨hbefore, hown⟩ := hstopped i hi
      exact hown ▸ htallied i hbefore
  · rw [life_append]
    exact refused_behind hclosing hc hi hnone hstopped' hfurther
  · rw [life_append]
    exact refused_after hclosing hx further

/-- One publishing went through, the next rests since the queue is full, and another is in line. -/
def waitingAtQueue : List (Choice Job) :=
  startedAtQueue ++
    .begin (.publish Keyed.empty) :: List.replicate 16 (.act 1) ++
    .begin (.publish Keyed.empty) :: List.replicate 10 (.act 2) ++
    [.begin (.publish Keyed.empty), .act 3]

/-- Behind the closing somebody else asks for the lock; then everybody comes back. -/
def closedAtQueue : List (Choice Job) :=
  List.replicate 3 (.act 4) ++ [.begin (.publish Keyed.empty), .act 5] ++
    List.replicate 7 (.act 2) ++ List.replicate 9 (.act 3) ++ List.replicate 10 (.act 4) ++
    List.replicate 6 (.act 5)

set_option maxRecDepth 8000 in
theorem closes_promptly_waiting :
    (narrowRouter.life waitingAtQueue).isStill = true ∧
      (narrowRouter.life waitingAtQueue).depth "orders" = 1 ∧
      narrowRouter.ClosesPromptly (narrowRouter.life waitingAtQueue)
        (narrowRouter.calls (waitingAtQueue ++ .begin .close :: closedAtQueue))
        (narrowRouter.life (waitingAtQueue ++ .begin .close :: closedAtQueue)) ∧
      (narrowRouter.life (waitingAtQueue ++ .begin .close :: closedAtQueue)).deliveries.map
        Prod.fst = [1, 2, 3] := by
  have hstill : (narrowRouter.life waitingAtQueue).isStill = true := rfl
  refine ⟨hstill, rfl, ?_, rfl⟩
  exact closes_promptly narrowRouter waitingAtQueue closedAtQueue rfl hstill (by decide) (by decide)

end Router

end Sluice
