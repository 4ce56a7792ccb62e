import Sluice.Proofs.Router.AllOrNothing
import Sluice.Proofs.Task.Calls
import Sluice.Proofs.Task.Chronicle

/-! # What a publishing has sent so far

What a finished publishing has done is known. A publishing that is still under way, or was stopped,
has done the beginning of what it would have done in the end, so it has sent no other message than
its own, and that at most once.
-/

namespace Sluice

variable {J α : Type}

/-- An event tells what became of the broker, and the broker was only used by calls if it was a
task that used it. -/
structure Event.Noted (e : Event) : Prop where
  broker : e.after.broker = e.deed.broker e.before.broker e.now
  call : ∀ i o, e.task = some i → e.deed = .operated o → ∃ c, o = .call c

namespace Scene

theorem noted_answered {s : Scene J α} {i : Nat} {r : Request} {a : r.Answer} {u : Schedule α}
    {next : r.Answer → Work α} (h : ∀ e ∈ s.past, e.Noted)
    (hbroker : u.world.broker = (r.deed a).broker s.schedule.world.broker s.schedule.now) :
    ∀ e ∈ (s.answered i r a u next).past, e.Noted := by
  intro e he
  rcases List.mem_append.mp he with hold | hnew
  · exact h e hold
  · rw [List.mem_singleton.mp hnew]
    refine ⟨hbroker, fun i o _ hdeed => ?_⟩
    cases r with
    | call c => exact ⟨c, (Deed.operated.inj hdeed).symm⟩
    | _ => cases hdeed

theorem noted_act {s : Scene J α} (h : ∀ e ∈ s.past, e.Noted) (i : Nat) :
    ∀ e ∈ (s.act i).past, e.Noted := by
  unfold act
  split
  next => exact h
  next r next _ =>
    cases hserve : s.schedule.serve i place r with
    | answered a t =>
        rw [ask_of_answered hserve]
        exact noted_answered h (Schedule.broker_of_answered hserve)
    | waits state t =>
        rw [ask_of_waits hserve]
        exact h
  next =>
    split
    next => exact noted_answered h rfl
    next =>
      split
      next => exact noted_answered h rfl
      next => exact h
  next =>
    split
    next => exact noted_answered h rfl
    next => exact h
  next => exact h

/-- All that happens is noted as it was. -/
theorem noted_run (work : J → Work α) (choices : List (Choice J)) {s : Scene J α}
    (h : ∀ e ∈ s.past, e.Noted) : ∀ e ∈ (s.run work choices).past, e.Noted := by
  induction choices generalizing s with
  | nil => exact h
  | cons c rest ih =>
      refine ih ?_
      cases c with
      | act i => exact noted_act h i
      | cancel i =>
          simp only [step]
          split <;> exact h
      | operate o =>
          simp only [step]
          split
          next =>
            intro e he
            rcases List.mem_append.mp he with hold | hnew
            · exact h e hold
            · rw [List.mem_singleton.mp hnew]
              exact ⟨rfl, by simp⟩
          next => exact h
      | _ => exact h

@[simp] theorem run_nil (work : J → Work α) (s : Scene J α) : s.run work [] = s := rfl

/-- What has happened stays noted. -/
theorem past_run (work : J → Work α) (s : Scene J α) (choices : List (Choice J)) :
    s.past <+: (s.run work choices).past := by
  induction choices generalizing s with
  | nil => exact List.prefix_rfl
  | cons c rest ih =>
      refine List.IsPrefix.trans ?_ (ih (s.step work c))
      cases s.notes_step work c with
      | nothing hpast hbroker => exact hpast ▸ List.prefix_rfl
      | event e hpast hbefore hbroker => exact hpast ▸ List.prefix_append _ _

theorem own_run (work : J → Work α) (s : Scene J α) (choices : List (Choice J)) (i : Nat) :
    s.moment.own i <+: (s.run work choices).moment.own i :=
  (past_run work s choices).filter _

/-- Whoever was just begun was not stopped. -/
theorem jobs_of_cancelled (work : J → Work α) {s : Scene J α} {c : Choice J} {i : Nat}
    (hlength : s.jobs.length = s.schedule.tasks.length)
    (hstate : (s.step work c).state? i = some .cancelled) :
    (s.step work c).jobs[i]? = s.jobs[i]? := by
  cases c with
  | begin job =>
      rw [state?_begin] at hstate
      by_cases hi : i = s.schedule.tasks.length
      · simp [hi] at hstate
      · refine (getElem?_concat s.jobs job i).trans (if_neg ?_)
        rw [hlength]
        exact hi
  | act j => exact congrArg (·[i]?) (jobs_act s j)
  | cancel j =>
      simp only [step]
      split <;> rfl
  | operate o =>
      simp only [step]
      split <;> rfl
  | _ => rfl

/-- Whoever did something was not stopped by it. -/
theorem own_step (work : J → Work α) (s : Scene J α) (c : Choice J) (i : Nat) :
    (s.step work c).moment.own i = s.moment.own i ∨
      (s.step work c).state? i ≠ some .cancelled := by
  have hanswered : ∀ (j : Nat) (r : Request) (a : r.Answer) (u : Schedule α)
      (next : r.Answer → Work α),
      (s.answered j r a u next).moment.own i = s.moment.own i ∨
        (s.answered j r a u next).state? i ≠ some .cancelled := by
    intro j r a u next
    by_cases hj : j = i
    · right
      subst hj
      simp only [state?, answered, Schedule.setState, List.getElem?_modify_eq]
      cases u.tasks[j]? <;> simp
    · left
      change List.filter _ (s.past ++ [_]) = List.filter _ s.past
      simp [hj]
  cases c with
  | act j =>
      simp only [step]
      unfold act
      split
      next => exact .inl rfl
      next r next _ =>
        cases hserve : s.schedule.serve j place r with
        | answered a t =>
            rw [ask_of_answered hserve]
            exact hanswered j r a t next
        | waits state t =>
            rw [ask_of_waits hserve]
            exact .inl rfl
      next =>
        split
        next => exact hanswered _ _ _ _ _
        next =>
          split
          next => exact hanswered _ _ _ _ _
          next => exact .inl rfl
      next =>
        split
        next => exact hanswered _ _ _ _ _
        next => exact .inl rfl
      next => exact .inl rfl
  | operate o =>
      left
      simp only [step]
      split
      next =>
        change List.filter _ (s.past ++ [_]) = List.filter _ s.past
        simp
      next => rfl
  | cancel j =>
      simp only [step]
      split <;> exact .inl rfl
  | _ => exact .inl rfl

end Scene

namespace Event

variable {e : Event} {i : Nat}

/-- Destinations grow by what a task delivers, or the task delivers nothing and they do not grow. -/
theorem Noted.grown (h : e.Noted) (htask : e.task = some i) :
    (∀ name, e.after.broker.waiting name =
        e.before.broker.waiting name ++ e.sent.filter fun p => p.destination = name) ∨
      e.sent = [] ∧ ∀ name,
        (e.after.broker.waiting name).length ≤ (e.before.broker.waiting name).length := by
  have hbroker := h.broker
  cases hdeed : e.deed with
  | operated o =>
      obtain ⟨c, rfl⟩ := h.call i o htask hdeed
      rw [hdeed] at hbroker
      have hsent : e.sent = e.before.broker.delivered e.now (.call c) := by rw [Event.sent, hdeed]
      rw [hbroker, hsent]
      rcases e.before.broker.mailboxes_perform e.now c with hmailboxes | ⟨w, r, rfl, -, hmailboxes⟩
      · left
        intro name
        rw [← Broker.waiting_deliverAll]
        exact Broker.waiting_congr hmailboxes name
      -- a look at a depth takes away no more than is expired
      · refine .inr ⟨rfl, fun name => ?_⟩
        refine (congrArg List.length ((Broker.waiting_congr hmailboxes name).trans
          (Broker.waiting_purge _ _ _ _))).trans_le ?_
        split
        next => exact List.length_filter_le _ _
        next => exact Nat.le_refl _
  | _ =>
      refine .inr ⟨by rw [Event.sent, hdeed], fun name => ?_⟩
      rw [hbroker, hdeed]
      exact Nat.le_refl _

namespace Does

variable {x : Manager} {name : String} {spent : List FaultPoint} {sent : List Parcel}

/-- Whatever a task delivers while it publishes is for its destination. -/
theorem destination (h : e.Does x name spent sent) (htask : e.task = some i) (hnoted : e.Noted) :
    ∀ p ∈ e.sent, p.destination = name := by
  intro p hp
  rcases hnoted.grown htask with hgrown | ⟨hnone, -⟩
  · by_contra hother
    have hsame : e.after.broker.waiting p.destination =
        e.before.broker.waiting p.destination := by
      simp only [Broker.waiting, h.others p.destination hother]
    have hnone := hgrown p.destination
    rw [hsame, List.self_eq_append_right, List.filter_eq_nil_iff] at hnone
    exact hnone p hp (by simp)
  · exact absurd (hnone ▸ hp : p ∈ ([] : List Parcel)) List.not_mem_nil

/-- What a task did for its destination is all that it delivered. -/
theorem sent_eq (h : e.Does x name spent sent) (htask : e.task = some i) (hnoted : e.Noted) :
    e.sent = sent := by
  have hlength : ∀ grown, e.after.broker.waiting name = e.before.broker.waiting name ++ grown →
      grown = sent := by
    intro grown hgrown
    rcases h.waiting with hsent | ⟨hnone, hless⟩
    · exact List.append_cancel_left (hgrown.symm.trans hsent)
    · have hle := List.length_filter_le (fun p : Parcel => !p.isExpired e.now)
        (e.before.broker.waiting name)
      rw [← hless, hgrown, List.length_append] at hle
      rw [hnone, ← List.length_eq_zero_iff]
      omega
  rcases hnoted.grown htask with hgrown | ⟨hnone, hless⟩
  · refine hlength _ ((hgrown name).trans ?_)
    rw [List.filter_eq_self.mpr fun p hp => by simpa using h.destination htask hnoted p hp]
  · rcases h.waiting with hsent | ⟨hsent, -⟩
    · have hle := hless name
      rw [hsent, List.length_append] at hle
      rw [hnone, eq_comm, ← List.length_eq_zero_iff]
      omega
    · rw [hnone, hsent]

/-- What a task delivered waits at its destination, behind what has waited there before. -/
theorem waits (h : e.Does x name spent sent) (htask : e.task = some i) (hnoted : e.Noted)
    (hsome : e.sent ≠ []) :
    e.after.broker.waiting name = e.before.broker.waiting name ++ e.sent := by
  rw [h.sent_eq htask hnoted] at hsome ⊢
  rcases h.waiting with hgrown | ⟨hnone, -⟩
  · exact hgrown
  · exact absurd hnone hsome

end Does

end Event

namespace Course

variable {x : Manager} {name : String} {spent : List FaultPoint} {sent : List Parcel}
variable {events : List Event} {i : Nat}

theorem does (h : Course x name spent sent events) :
    ∀ e ∈ events, ∃ spent sent, e.Does x name spent sent := by
  induction h with
  | nil => simp
  | snoc h hdoes ih =>
      intro e he
      rcases List.mem_append.mp he with hold | hnew
      · exact ih e hold
      · exact ⟨_, _, List.mem_singleton.mp hnew ▸ hdoes⟩

theorem sent_eq (h : Course x name spent sent events)
    (hmine : ∀ e ∈ events, e.task = some i ∧ e.Noted) : events.flatMap Event.sent = sent := by
  induction h with
  | nil => rfl
  | snoc h hdoes ih =>
      obtain ⟨htask, hnoted⟩ := hmine _ (List.mem_append_right _ List.mem_cons_self)
      rw [List.flatMap_append, ih fun e he => hmine e (List.mem_append_left _ he)]
      simp [hdoes.sent_eq htask hnoted]

end Course

/-- Events that tell of messages which wait at the destination of the router, behind what has waited
there before. -/
def Event.Supplies (e : Event) : Prop :=
  ∃ held, e.before.manager.resources = some held ∧
    (∀ p ∈ e.sent, p.destination = held.destination.name) ∧
    e.after.broker.waiting held.destination.name =
      e.before.broker.waiting held.destination.name ++ e.sent

theorem Course.supplies {x : Manager} {held : Resources} {spent : List FaultPoint}
    {sent : List Parcel} {events : List Event} {i : Nat} (hheld : x.resources = some held)
    (h : Course x held.destination.name spent sent events)
    (hmine : ∀ e ∈ events, e.task = some i ∧ e.Noted) :
    ∀ e ∈ events, e.sent ≠ [] → e.Supplies := by
  intro e he hsome
  obtain ⟨htask, hnoted⟩ := hmine e he
  obtain ⟨_, _, hdoes⟩ := h.does e he
  exact ⟨held, hdoes.before ▸ hheld, hdoes.destination htask hnoted,
    hdoes.waits htask hnoted hsome⟩

namespace Account

variable {r : Router} {values : Context} {own : List Event} {x : Except RouterError Unit} {i : Nat}

/-- A finished publishing has sent its message, or failed and sent none. -/
theorem sends (h : Account r values own x) (hmine : ∀ e ∈ own, e.task = some i ∧ e.Noted) :
    x ≠ .ok () ∧ own.flatMap Event.sent = [] ∨
      x = .ok () ∧ ∃ p : Parcel, own.flatMap Event.sent = [p] ∧ p.message.Carries r values := by
  cases h with
  | notReady hnone hcourse hsettled => exact .inl ⟨by simp, (hcourse "").sent_eq hmine⟩
  | failed hheld hcourse hsettled => exact .inl ⟨by simp, hcourse.sent_eq hmine⟩
  | sent hheld hcarries hcourse hsettled => exact .inr ⟨rfl, _, hcourse.sent_eq hmine, hcarries⟩

theorem supplies (h : Account r values own x) (hmine : ∀ e ∈ own, e.task = some i ∧ e.Noted) :
    ∀ e ∈ own, e.sent ≠ [] → e.Supplies := by
  cases h with
  | notReady hnone hcourse hsettled =>
      intro e he hsome
      exact absurd (List.flatMap_eq_nil_iff.mp ((hcourse "").sent_eq hmine) e he) hsome
  | failed hheld hcourse hsettled => exact hcourse.supplies hheld hmine
  | sent hheld hcarries hcourse hsettled => exact hcourse.supplies hheld hmine

end Account

/-- The values that a job publishes, if it publishes. -/
def Job.values? (r : Router) : Job → Option Context
  | .publish values => some values
  | .visit phase values => if r.config.executionPhase = phase then some values else none
  | _ => none

/-- Whether a message was published. -/
def Outcome.isPublished : Outcome → Bool
  | .routed (.ok _) => true
  | .visited (.ok sent) => sent
  | _ => false

theorem Job.account_of_values {r : Router} {job : Job} {values : Context} {x : Outcome}
    {own : List Event} (hvalues : job.values? r = some values) (h : job.account r x own) :
    ∃ y, Account r values own y ∧ (x.isPublished = true ↔ y = .ok ()) := by
  cases job with
  | publish values' =>
      obtain rfl := Option.some.inj hvalues
      cases x with
      | routed y =>
          refine ⟨y, h.1, ?_⟩
          cases y <;> simp [Outcome.isPublished]
      | _ => exact absurd h (by simp [Job.account])
  | visit phase values' =>
      obtain ⟨hphase, hvalues⟩ := Option.ite_none_right_eq_some.mp hvalues
      obtain rfl := Option.some.inj hvalues
      cases x with
      | visited y =>
          rw [Job.account, if_pos hphase] at h
          obtain ⟨y', rfl, haccount, -⟩ := h
          refine ⟨y', haccount, ?_⟩
          cases y' <;> simp [Outcome.isPublished, Except.map]
      | _ => exact absurd h (by simp [Job.account])
  | _ => cases hvalues

namespace Router

/-- The values that a task publishes, if it publishes. -/
def published? (r : Router) (s : Life) (i : Nat) : Option Context :=
  (s.jobs[i]?).bind (Job.values? r)

/-- What a task has done is the beginning of what a finished publishing has done. -/
def Begins (r : Router) (i : Nat) (values : Context) (own : List Event) : Prop :=
  ∃ later x, Account r values (own ++ later) x ∧ ∀ e ∈ own ++ later, e.task = some i ∧ e.Noted

variable {r : Router} {i : Nat} {values : Context} {own : List Event}

theorem Begins.sends (h : r.Begins i values own) :
    (own.flatMap Event.sent).length ≤ 1 ∧
      ∀ p ∈ own.flatMap Event.sent, p.message.Carries r values := by
  obtain ⟨later, x, haccount, hmine⟩ := h
  have hsends := haccount.sends hmine
  rw [List.flatMap_append] at hsends
  rcases hsends with ⟨-, hnone⟩ | ⟨-, p, hone, hcarries⟩
  · simp [(List.append_eq_nil_iff.mp hnone).1]
  · refine ⟨?_, fun q hq => ?_⟩
    · have hlength := congrArg List.length hone
      rw [List.length_append, List.length_singleton] at hlength
      omega
    · have hmem := List.mem_append_left (later.flatMap Event.sent) hq
      rw [hone, List.mem_singleton] at hmem
      exact hmem ▸ hcarries

theorem Begins.supplies (h : r.Begins i values own) : ∀ e ∈ own, e.sent ≠ [] → e.Supplies := by
  obtain ⟨later, x, haccount, hmine⟩ := h
  exact fun e he => haccount.supplies hmine e (List.mem_append_left _ he)

theorem noted_life (r : Router) (choices : List (Choice Job)) (i : Nat) :
    ∀ e ∈ (r.life choices).moment.own i, e.task = some i ∧ e.Noted := by
  intro e he
  obtain ⟨hpast, htask⟩ := List.mem_filter.mp he
  exact ⟨of_decide_eq_true htask, Scene.noted_run (Job.work r) choices (by simp) e hpast⟩

theorem life_append (r : Router) (first second : List (Choice Job)) :
    (r.life first).run (Job.work r) second = r.life (first ++ second) :=
  (Scene.run_append _ _ _ _).symm

/-- Whoever has come back has done what a finished publishing has done. -/
theorem account_of_outcome {choices : List (Choice Job)} {x : Outcome}
    (hvalues : r.published? (r.life choices) i = some values)
    (houtcome : (r.life choices).outcome? i = some x) :
    ∃ y, Account r values ((r.life choices).moment.own i) y ∧
      (x.isPublished = true ↔ y = .ok ()) := by
  obtain ⟨job, hjob, hvalues⟩ := Option.bind_eq_some_iff.mp hvalues
  have hsound := sound_life (G := .free r.config.admission) once_empty choices
  exact Job.account_of_values hvalues (hsound.outcome hjob houtcome)

/-- Whatever is chosen, a publishing has done the beginning of what a finished one has done. -/
theorem begins_life (r : Router) (choices : List (Choice Job)) {i : Nat} {values : Context}
    (hvalues : r.published? (r.life choices) i = some values) :
    r.Begins i values ((r.life choices).moment.own i) := by
  -- on the choices, since whoever was stopped has done what was done before
  induction choices using List.reverseRecOn with
  | nil => simp [published?, life, Scene.run] at hvalues
  | append_singleton choices c ih =>
      by_cases hstopped : (r.life (choices ++ [c])).state? i = some .cancelled
      · rw [← life_append] at hstopped hvalues ⊢
        have hlength := (sound_life (G := .free r.config.admission) once_empty choices).jobs
        rcases Scene.own_step (Job.work r) (r.life choices) c i with hown | hgoes
        · rw [Scene.run_cons, Scene.run_nil, hown]
          apply ih
          rw [published?] at hvalues ⊢
          rw [← Scene.jobs_of_cancelled (Job.work r) hlength hstopped]
          exact hvalues
        · exact absurd hstopped hgoes
      · obtain ⟨job, hjob, -⟩ := Option.bind_eq_some_iff.mp hvalues
        have hsound := sound_life (G := .free r.config.admission) once_empty (choices ++ [c])
        obtain ⟨_, ⟨later, hpatient, rfl⟩, x, hfinished⟩ :=
          hsound.leads_finished (Job.work r) hjob hstopped
        obtain ⟨rest, hrest⟩ :=
          Scene.own_run (Job.work r) (r.life (choices ++ [c])) later i
        have hvalues' : r.published? ((r.life (choices ++ [c])).run (Job.work r) later) i =
            some values := by
          rw [published?, jobs_patient hpatient]
          exact hvalues
        rw [life_append] at hfinished hrest hvalues'
        obtain ⟨y, haccount, -⟩ :=
          account_of_outcome hvalues' (by rw [Scene.outcome?, hfinished])
        refine ⟨rest, y, hrest ▸ haccount, ?_⟩
        rw [hrest]
        exact noted_life r _ i

end Router

end Sluice
