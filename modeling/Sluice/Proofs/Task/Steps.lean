import Sluice.Proofs.Task.Ranks

/-! # What a step of a task comes to

A task that takes a step comes back, is answered and goes on, begins to rest, or joins the line for
the lock; or it goes on when its rest has come to an end or it was given the lock; or it cannot go
on, and nothing changes. Nobody else moves. Whatever else is chosen is, to each task, something that
others do.
-/

namespace Sluice

/-- What becomes of a lock when a request is answered. -/
def Lock.after (l : Lock) (i : Nat) : Request → Lock
  | .lock => l.join i
  | .unlock => l.pass
  | _ => l

theorem Lock.after_inside (l : Lock) (i : Nat) {r : Request}
    (hr : r.isInside = true ∨ r = .shutDown ∨ r = .interrupt) : l.after i r = l := by
  cases r <;> first | rfl | simp [Request.isInside] at hr

namespace Scene

variable {J α : Type} {T : Terms} {account : J → α → List Event → Prop} {work : J → Work α}
variable {s s' : Scene J α} {i j : Nat}

theorem exists_state (h : i < s.schedule.tasks.length) : ∃ state, s.state? i = some state :=
  ⟨_, by rw [state?, List.getElem?_eq_getElem h, Option.map_some]⟩

theorem lt_of_isSome (h : (s.state? i).isSome) : i < s.schedule.tasks.length := by
  by_contra hge
  rw [state?, List.getElem?_eq_none (Nat.le_of_not_lt hge)] at h
  cases h

theorem lt_of_goesOn (h : s.goesOn i = true) : i < s.schedule.tasks.length := by
  refine lt_of_isSome ?_
  cases hstate : s.state? i with
  | none => simp [goesOn, hstate] at h
  | some state => rfl

theorem getElem?_concat {β : Type} (l : List β) (x : β) (j : Nat) :
    (l ++ [x])[j]? = if j = l.length then some x else l[j]? := by
  rcases Nat.lt_trichotomy j l.length with hlt | rfl | hgt
  · rw [List.getElem?_append_left hlt, if_neg (by omega)]
  · rw [List.getElem?_concat_length, if_pos rfl]
  · rw [if_neg (by omega), List.getElem?_eq_none (by simp; omega),
      List.getElem?_eq_none (Nat.le_of_lt hgt)]

theorem state?_begin (s : Scene J α) (job : J) (j : Nat) :
    (s.step work (.begin job)).state? j =
      if j = s.schedule.tasks.length then some (.ready (work job)) else s.state? j := by
  refine (congrArg (Option.map Task.state) (getElem?_concat s.schedule.tasks _ j)).trans ?_
  split <;> rfl

/-- What a task is begun for by a choice, if one is. -/
def begun : Choice J → List J
  | .begin job => [job]
  | _ => []

/-- What a task was begun for stays known, and is known of each that is begun. -/
theorem jobs_step_eq (work : J → Work α) (s : Scene J α) (c : Choice J) :
    (s.step work c).jobs = s.jobs ++ begun c := by
  cases c with
  | begin job => rfl
  | act i => exact (jobs_act s i).trans (List.append_nil _).symm
  | cancel i =>
      simp only [Scene.step]
      split <;> exact (List.append_nil _).symm
  | operate o =>
      simp only [Scene.step]
      split <;> exact (List.append_nil _).symm
  | _ => exact (List.append_nil _).symm

theorem jobs_step (work : J → Work α) (s : Scene J α) (c : Choice J) :
    s.jobs <+: (s.step work c).jobs :=
  jobs_step_eq work s c ▸ List.prefix_append _ _

/-- Whether a task can go on as things are. -/
def canAct (s : Scene J α) (i : Nat) : Bool :=
  match s.state? i with
  | some (.ready _) => true
  | some (.resting deadline ticket _) =>
      s.station.signal.endedSince ticket || decide (deadline ≤ s.schedule.now)
  | some (.inLine _) => s.station.lock.holder = some i
  | _ => false

theorem canAct_of_ready {w : Work α} (h : s.state? i = some (.ready w)) : s.canAct i = true := by
  rw [canAct, h]

/-- The answers that a task can get as things are. -/
inductive Gives (s : Scene J α) (i : Nat) : (r : Request) → r.Answer → Prop
  | met {r : Request} {a : r.Answer} {met : Moment} (hrest : r.isRest = false)
      (h : Met s.moment r a met) : Gives s i r a
  | ended {millis : Nat} {ticket : Option Nat} (h : s.station.signal.endedSince ticket = true) :
      Gives s i (.rest millis ticket) true
  | elapsed {millis : Nat} {ticket : Option Nat} (h : s.station.signal.endedSince ticket = false)
      (hover : millis = 0 ∨ ∃ deadline next,
        s.state? i = some (.resting deadline ticket next) ∧ deadline ≤ s.schedule.now) :
      Gives s i (.rest millis ticket) false

/-- A task has moved, and nobody else. -/
structure Turned (i : Nat) (state : TaskState α) (s s' : Scene J α) : Prop where
  state : s'.state? i = some state
  others : ∀ j, j ≠ i → s'.state? j = s.state? j
  jobs : s'.jobs = s.jobs
  length : s'.schedule.tasks.length = s.schedule.tasks.length
  now : s'.schedule.now = s.schedule.now
  places : s'.schedule.tasks.map Task.place = s.schedule.tasks.map Task.place
  stations : s'.schedule.world.stations.length = s.schedule.world.stations.length

/-- What a step of a task can be. -/
inductive Acts (s : Scene J α) (i : Nat) (s' : Scene J α) : Prop
  /-- The task cannot go on. -/
  | stays (hcan : s.canAct i = false) (h : s' = s)
  | returns {x : α} (hstate : s.state? i = some (.ready (.done x)))
      (hturned : Turned i (.finished x) s s') (hmoment : s'.moment = s.moment)
      (hlock : s'.station.lock = s.station.lock)
  | answered {r : Request} {a : r.Answer} {next : r.Answer → Work α}
      (hstate : s.state? i = some (.ready (Script.ask r next))) (hgives : s.Gives i r a)
      (hturned : Turned i (.ready (next a)) s s') (hanswered : Answered i s.moment r a s'.moment)
      (hlock : s'.station.lock = s.station.lock.after i r)
      (hfree : r = .lock → s.station.lock.holder = none)
  | rests {millis : Nat} {ticket : Option Nat} {next : Bool → Work α}
      (hstate : s.state? i = some (.ready (Script.ask (.rest millis ticket) next)))
      (hmillis : millis ≠ 0)
      (hturned : Turned i (.resting (s.schedule.now + millis) ticket next) s s')
      (hmoment : s'.moment = s.moment) (hlock : s'.station.lock = s.station.lock)
  | queues {next : Unit → Work α} (hstate : s.state? i = some (.ready (Script.ask .lock next)))
      (hturned : Turned i (.inLine next) s s') (hmoment : s'.moment = s.moment)
      (hlock : s'.station.lock = s.station.lock.join i) {k : Nat}
      (htaken : s.station.lock.holder = some k)
  | wakes {deadline : Nat} {ticket : Option Nat} {next : Bool → Work α} {early : Bool}
      (hstate : s.state? i = some (.resting deadline ticket next))
      (hgives : ∀ millis, s.Gives i (.rest millis ticket) early)
      (hturned : Turned i (.ready (next early)) s s')
      (hanswered : Answered i s.moment (.rest 0 ticket) early s'.moment)
      (hlock : s'.station.lock = s.station.lock)
  | granted {next : Unit → Work α} (hstate : s.state? i = some (.inLine next))
      (hturned : Turned i (.ready (next ())) s s')
      (hanswered : Answered i s.moment .lock () s'.moment)
      (hlock : s'.station.lock = s.station.lock) (hholder : s.station.lock.holder = some i)

section Acts

/-- Whoever was stopped, or is done with everything, stays so. -/
theorem act_eq_self (h : ∀ state, s.state? i = some state →
    (∃ x, state = .finished x) ∨ state = .cancelled) : s.act i = s := by
  unfold act
  rw [← state?]
  cases hstate : s.state? i with
  | none => rfl
  | some state =>
      rcases h state hstate with ⟨x, rfl⟩ | rfl
      · rfl
      · rfl

theorem map_place_modify (tasks : List (Task α)) (i : Nat) (state : TaskState α) :
    (tasks.modify i fun t => { t with state }).map Task.place = tasks.map Task.place := by
  refine List.ext_getElem? fun j => ?_
  by_cases hij : i = j
  · subst hij
    rw [List.getElem?_map, List.getElem?_modify_eq, List.getElem?_map, Option.map_eq_map,
      Option.map_map]
    rfl
  · rw [List.getElem?_map, List.getElem?_modify_ne _ _ hij, List.getElem?_map]

theorem turned_tasks {state : TaskState α} (hi : (s.state? i).isSome)
    (htasks : s'.schedule.tasks = s.schedule.tasks.modify i fun t => { t with state })
    (hjobs : s'.jobs = s.jobs) (hnow : s'.schedule.now = s.schedule.now)
    (hstations : s'.schedule.world.stations.length = s.schedule.world.stations.length) :
    Turned i state s s' := by
  have hstate : ∀ j, s'.state? j = if j = i then some state else s.state? j := by
    intro j
    rw [state?, htasks]
    exact state?_setState rfl state hi j
  refine ⟨(hstate i).trans (if_pos rfl), fun j hj => (hstate j).trans (if_neg hj), hjobs, ?_, hnow,
    ?_, hstations⟩
  · rw [htasks, List.length_modify]
  · rw [htasks, map_place_modify]

theorem turned_setState {u : Schedule α} (state : TaskState α) (hi : (s.state? i).isSome)
    (htasks : u.tasks = s.schedule.tasks) (hnow : u.now = s.schedule.now)
    (hstations : u.world.stations.length = s.schedule.world.stations.length) :
    Turned i state s { s with schedule := u.setState i state } :=
  turned_tasks hi (by rw [← htasks]; rfl) rfl hnow hstations

theorem turned_answered {u : Schedule α} (r : Request) (a : r.Answer) (next : r.Answer → Work α)
    (hi : (s.state? i).isSome) (htasks : u.tasks = s.schedule.tasks)
    (hnow : u.now = s.schedule.now)
    (hstations : u.world.stations.length = s.schedule.world.stations.length) :
    Turned i (.ready (next a)) s (s.answered i r a u next) := by
  obtain ⟨hstate, hothers, hjobs, hlength, hlast, hplaces, hlast'⟩ :=
    turned_setState (.ready (next a)) hi htasks hnow hstations
  exact ⟨hstate, hothers, hjobs, hlength, hlast, hplaces, hlast'⟩

theorem acts_done {x : α} (hstate : s.state? i = some (.ready (.done x))) :
    s.Acts i (s.act i) := by
  rw [act_done hstate]
  exact .returns hstate (turned_setState _ (by simp [hstate]) rfl rfl rfl) rfl rfl

theorem acts_resting {deadline : Nat} {ticket : Option Nat} {next : Bool → Work α}
    (hstate : s.state? i = some (.resting deadline ticket next)) : s.Acts i (s.act i) := by
  have hi : (s.state? i).isSome := by simp [hstate]
  have hanswered : ∀ early : Bool, (early = true → s.station.signal.endedSince ticket) →
      Answered i s.moment (.rest 0 ticket) early
        (s.answered i (.rest 0 ticket) early (s.schedule.dropAlarm i) next).moment := by
    intro early hended
    exact answered_of_met (.rest 0 ticket early hended) rfl rfl rfl (List.append_nil _).symm rfl
      next
  unfold act
  rw [← state?, hstate]
  dsimp only
  split
  next hended =>
    exact .wakes hstate (fun _ => .ended hended)
      (turned_answered (.rest 0 ticket) true next hi rfl rfl rfl)
      (hanswered true fun _ => hended) rfl
  next hended =>
    have hnot : s.station.signal.endedSince ticket = false := by simpa using hended
    split
    next hover =>
      exact .wakes hstate (fun _ => .elapsed hnot (.inr ⟨deadline, next, hstate, hover⟩))
        (turned_answered (.rest 0 ticket) false next hi rfl rfl rfl) (hanswered false (by simp)) rfl
    next hover => exact .stays (by simp [canAct, hstate, hnot, hover]) rfl

theorem acts_rest {millis : Nat} {ticket : Option Nat}
    {next : (Request.rest millis ticket).Answer → Work α}
    (hstate : s.state? i = some (.ready (Script.ask (.rest millis ticket) next))) :
    s.Acts i (s.act i) := by
  have hi : (s.state? i).isSome := by simp [hstate]
  have hanswered : ∀ early : Bool, (early = true → s.station.signal.endedSince ticket) →
      Answered i s.moment (.rest millis ticket) early
        (s.answered i (.rest millis ticket) early s.schedule next).moment := by
    intro early hended
    exact answered_of_met (.rest millis ticket early hended) rfl rfl rfl (List.append_nil _).symm
      rfl next
  rw [act_ask hstate]
  by_cases hended : s.station.signal.endedSince ticket
  · rw [ask_of_answered (Schedule.serve_rest_early i place millis hended)]
    exact .answered hstate (.ended hended)
      (turned_answered (.rest millis ticket) true next hi rfl rfl rfl)
      (hanswered true fun _ => hended) rfl (by simp)
  · have hnot : s.station.signal.endedSince ticket = false := by simpa using hended
    by_cases hzero : millis = 0
    · subst hzero
      rw [ask_of_answered (Schedule.serve_rest_zero i place hended)]
      exact .answered hstate (.elapsed hnot (.inl rfl))
        (turned_answered (.rest 0 ticket) false next hi rfl rfl rfl)
        (hanswered false (by simp)) rfl (by simp)
    · rw [ask_of_waits (Schedule.serve_rest_waits i place hended hzero)]
      exact .rests hstate hzero (turned_setState _ hi rfl rfl rfl) rfl rfl

variable (hstation : place < s.schedule.world.stations.length)

include hstation

theorem acts_lock {next : Request.lock.Answer → Work α}
    (hstate : s.state? i = some (.ready (Script.ask .lock next))) (hout : s.holds i = false) :
    s.Acts i (s.act i) := by
  have hi : (s.state? i).isSome := by simp [hstate]
  have hjoined := station_modifyLock hstation fun l => l.join i
  rw [act_ask hstate]
  cases hholder : s.station.lock.holder with
  | none =>
      rw [ask_of_answered (serve_lock_free hstation i hholder)]
      exact .answered hstate (.met rfl .lock)
        (turned_answered .lock () next hi rfl rfl (World.length_modifyStation _ _ _))
        (answered_of_lock (s := s) (t := s.schedule.onWorld _) .lock rfl rfl rfl hjoined next)
        (congrArg Station.lock hjoined) fun _ => hholder
  | some k =>
      have hki : k ≠ i := by
        rintro rfl
        simp [holds, hholder] at hout
      rw [ask_of_waits (serve_lock_taken hstation hholder hki)]
      exact .queues hstate (turned_setState _ hi rfl rfl (World.length_modifyStation _ _ _))
        (moment_of_lock (s := s) rfl rfl hjoined)
        (congrArg Station.lock hjoined) hholder

theorem acts_unlock {next : Request.unlock.Answer → Work α}
    (hstate : s.state? i = some (.ready (Script.ask .unlock next))) : s.Acts i (s.act i) := by
  have hi : (s.state? i).isSome := by simp [hstate]
  obtain ⟨hworld, htasks, hnow⟩ := s.schedule.unlock_eq place
  have hbroker : (s.schedule.unlock place).world.broker = s.schedule.world.broker := by
    rw [hworld]
    rfl
  have hstations : (s.schedule.unlock place).world.stations.length =
      s.schedule.world.stations.length := by
    rw [hworld]
    exact World.length_modifyStation _ _ _
  have hserve : s.schedule.serve i place .unlock = .answered () (s.schedule.unlock place) := rfl
  rw [act_ask hstate, ask_of_answered hserve]
  exact .answered hstate (.met rfl .unlock)
    (turned_answered .unlock () next hi htasks hnow hstations)
    (answered_of_lock (s := s) (t := s.schedule.unlock place) .unlock rfl hbroker hnow
      (station_unlock hstation) next)
    (congrArg Station.lock (station_unlock hstation)) (by simp)

/-- A task asks what is answered at once and has nothing to do with the lock. -/
theorem acts_inside {r : Request} {next : r.Answer → Work α}
    (hr : r.isInside = true ∨ r = .shutDown ∨ r = .interrupt) (hrest : r.isRest = false)
    (hstate : s.state? i = some (.ready (Script.ask r next))) : s.Acts i (s.act i) := by
  have hi : (s.state? i).isSome := by simp [hstate]
  obtain ⟨a, u, hserves⟩ := serves_inside hstation i hr hrest
  have hanswered := hserves.answered next
  obtain ⟨met, hmet, -⟩ := hserves.answered next
  rw [act_ask hstate, ask_of_answered hserves.serve]
  exact .answered hstate (.met hrest hmet)
    (turned_answered r a next hi hserves.tasks hanswered.now hserves.length) hanswered
    (hserves.lock.trans (Lock.after_inside _ i hr).symm)
    (by rintro rfl; simp [Request.isInside] at hr)

end Acts

/-- What a step of a task comes to. -/
theorem acts_act (hsound : s.Sound T account) (i : Nat) : s.Acts i (s.act i) := by
  cases hstate : s.state? i with
  | none => exact .stays (by simp [canAct, hstate]) (act_eq_self (by simp [hstate]))
  | some state =>
      have hi : (s.state? i).isSome := by simp [hstate]
      cases state with
      | ready w =>
          obtain ⟨job, hstands⟩ := hsound.standing hstate
          cases w with
          | done x => exact acts_done hstate
          | ask r next =>
              cases hholds : s.holds i with
              | true =>
                  rw [hholds] at hstands
                  have hallowed : r.isAllowed true = true := hstands.1
                  cases r with
                  | rest millis ticket => exact acts_rest hstate
                  | unlock => exact acts_unlock hsound.station hstate
                  | _ =>
                      first
                        | exact acts_inside hsound.station (.inl rfl) rfl hstate
                        | exact absurd hallowed (by simp [Request.isAllowed, Request.isInside])
              | false =>
                  rw [hholds] at hstands
                  have hallowed : r.isAllowed false = true := hstands.1
                  cases r with
                  | lock => exact acts_lock hsound.station hstate hholds
                  | shutDown => exact acts_inside hsound.station (.inr (.inl rfl)) rfl hstate
                  | interrupt => exact acts_inside hsound.station (.inr (.inr rfl)) rfl hstate
                  | _ => exact absurd hallowed (by simp [Request.isAllowed])
      | resting deadline ticket next => exact acts_resting hstate
      | inLine next =>
          by_cases hholder : s.station.lock.holder = some i
          · rw [act_inLine hstate hholder]
            exact .granted hstate (turned_answered .lock () next hi rfl rfl rfl)
              (answered_of_met .lock rfl rfl rfl (List.append_nil _).symm rfl next) rfl hholder
          · refine .stays (by simp [canAct, hstate, hholder]) ?_
            unfold act
            rw [← state?, hstate]
            exact if_neg hholder
      | finished x => exact .stays (by simp [canAct, hstate]) (act_eq_self (by simp [hstate]))
      | cancelled => exact .stays (by simp [canAct, hstate]) (act_eq_self (by simp [hstate]))

namespace Acts

variable (h : s.Acts i s')

include h

/-- Whoever takes a step moves, and nobody else; nobody is stopped by it. -/
theorem turned : s' = s ∨ ∃ state, Turned i state s s' ∧ state ≠ .cancelled := by
  cases h with
  | stays hcan h => exact .inl h
  | returns hstate hturned => exact .inr ⟨_, hturned, nofun⟩
  | answered hstate hgives hturned => exact .inr ⟨_, hturned, nofun⟩
  | rests hstate hmillis hturned => exact .inr ⟨_, hturned, nofun⟩
  | queues hstate hturned => exact .inr ⟨_, hturned, nofun⟩
  | wakes hstate hgives hturned => exact .inr ⟨_, hturned, nofun⟩
  | granted hstate hturned => exact .inr ⟨_, hturned, nofun⟩

/-- Whoever takes a step does nothing, or what was asked for. -/
theorem moment : s'.moment = s.moment ∨ ∃ r a, Answered i s.moment r a s'.moment ∧
    (r.isRest = true ∨ r = .lock ∨
      ∃ next, s.state? i = some (.ready (Script.ask r next))) := by
  cases h with
  | stays hcan h => exact .inl (congrArg Scene.moment h)
  | returns hstate hturned hmoment => exact .inl hmoment
  | answered hstate hgives hturned hanswered =>
      exact .inr ⟨_, _, hanswered, .inr (.inr ⟨_, hstate⟩)⟩
  | rests hstate hmillis hturned hmoment => exact .inl hmoment
  | queues hstate hturned hmoment => exact .inl hmoment
  | wakes hstate hgives hturned hanswered => exact .inr ⟨_, _, hanswered, .inl rfl⟩
  | granted hstate hturned hanswered => exact .inr ⟨_, _, hanswered, .inr (.inl rfl)⟩

end Acts

/-- The tasks stand at the station, each for a job. -/
structure Placed (s : Scene J α) : Prop where
  station : place < s.schedule.world.stations.length
  jobs : s.jobs.length = s.schedule.tasks.length
  places : ∀ t ∈ s.schedule.tasks, t.place = place

/-- Every step that a task may take is of a known kind. -/
structure Regular (s : Scene J α) : Prop extends s.Placed where
  acts : ∀ i, s.Acts i (s.act i)

theorem Sound.regular (hsound : s.Sound T account) : s.Regular where
  station := hsound.station
  jobs := hsound.jobs
  places := hsound.places
  acts := acts_act hsound

theorem Regular.job_of_state (hregular : s.Regular) {state : TaskState α}
    (hstate : s.state? i = some state) : ∃ job, s.jobs[i]? = some job := by
  have hlt : i < s.jobs.length := by
    rw [hregular.jobs]
    exact lt_of_isSome (by rw [hstate]; rfl)
  exact ⟨s.jobs[i], List.getElem?_eq_getElem hlt⟩

theorem others_act (hregular : s.Regular) {i j : Nat} (hij : j ≠ i) :
    (s.act i).state? j = s.state? j := by
  rcases (hregular.acts i).turned with hsame | ⟨state, hturned, -⟩
  · rw [hsame]
  · exact hturned.others j hij

/-- Whoever asks what is answered at once is answered. -/
theorem Regular.answered_of_asked (hregular : s.Regular) {r : Request} {next : r.Answer → Work α}
    (hrest : r.isRest = false) (hlock : r ≠ .lock)
    (hstate : s.state? i = some (.ready (Script.ask r next))) :
    ∃ a, Answered i s.moment r a (s.act i).moment ∧
      (s.act i).state? i = some (.ready (next a)) := by
  cases hregular.acts i with
  | stays hcan => simp [canAct, hstate] at hcan
  | returns hstate' => cases Option.some.inj (hstate.symm.trans hstate')
  | answered hstate' hgives hturned hanswered =>
      obtain ⟨⟩ := Option.some.inj (hstate.symm.trans hstate')
      exact ⟨_, hanswered, hturned.state⟩
  | rests hstate' =>
      obtain ⟨⟩ := Option.some.inj (hstate.symm.trans hstate')
      cases hrest
  | queues hstate' =>
      obtain ⟨⟩ := Option.some.inj (hstate.symm.trans hstate')
      exact absurd rfl hlock
  | wakes hstate' => simp [hstate] at hstate'
  | granted hstate' => simp [hstate] at hstate'

/-- Whoever rests and is woken goes on. -/
theorem Regular.answered_of_ended (hregular : s.Regular) {deadline : Nat} {ticket : Option Nat}
    {next : Bool → Work α} (hstate : s.state? i = some (.resting deadline ticket next))
    (hended : s.station.signal.endedSince ticket = true) :
    Answered i s.moment (.rest 0 ticket) true (s.act i).moment ∧
      (s.act i).state? i = some (.ready (next true)) := by
  cases hregular.acts i with
  | stays hcan => simp [canAct, hstate, hended] at hcan
  | wakes hstate' hgives hturned hanswered =>
      obtain ⟨⟩ := Option.some.inj (hstate.symm.trans hstate')
      cases hgives 0 with
      | met hrest => cases hrest
      | ended => exact ⟨hanswered, hturned.state⟩
      | elapsed hnot => simp [hended] at hnot
  | returns hstate' => simp [hstate] at hstate'
  | answered hstate' => simp [hstate] at hstate'
  | rests hstate' => simp [hstate] at hstate'
  | queues hstate' => simp [hstate] at hstate'
  | granted hstate' => simp [hstate] at hstate'

theorem placed_empty : ({} : Scene J α).Placed := ⟨Nat.zero_lt_one, rfl, by simp⟩

/-- Other tasks stand where they did. -/
theorem Placed.of_states (h : s.Placed) (hjobs : s'.jobs = s.jobs)
    (hplaces : s'.schedule.tasks.map Task.place = s.schedule.tasks.map Task.place)
    (hstations : s'.schedule.world.stations.length = s.schedule.world.stations.length) :
    s'.Placed where
  station := hstations ▸ h.station
  jobs := by
    have hlength := congrArg List.length hplaces
    rw [List.length_map, List.length_map] at hlength
    rw [hjobs, hlength, h.jobs]
  places := by
    rw [← List.forall_mem_map (P := (· = place)), hplaces, List.forall_mem_map]
    exact h.places

theorem Regular.placed_act (h : s.Regular) (i : Nat) : (s.act i).Placed := by
  rcases (h.acts i).turned with hsame | ⟨state, hturned, -⟩
  · rw [hsame]
    exact h.toPlaced
  · exact h.of_states hturned.jobs hturned.places hturned.stations

/-- Tasks stay where they stand, whatever is chosen. -/
theorem Regular.placed_step (work : J → Work α) (h : s.Regular) (c : Choice J) :
    (s.step work c).Placed := by
  cases c with
  | begin job =>
      refine ⟨h.station, ?_, ?_⟩
      · simp [Scene.step, Schedule.add, h.jobs]
      · simpa [Scene.step, Schedule.add, or_imp, forall_and] using h.places
  | act i => exact h.placed_act i
  | cancel i =>
      rcases s.step_cancel work i with hsame | ⟨t, ht, -, hstep⟩
      · rw [hsame]
        exact h.toPlaced
      · obtain ⟨htasks, -, hworld⟩ := Schedule.cancel_eq ht
        rw [hstep]
        refine h.of_states rfl ?_ ?_
        · rw [htasks, map_place_modify]
        · rw [hworld]
          exact World.length_modifyStation _ _ _
  | operate o =>
      simp only [Scene.step]
      split <;> exact h.of_states rfl rfl rfl
  | interrupt =>
      obtain ⟨hworld, htasks, -⟩ := s.schedule.interrupt_eq place
      refine h.of_states rfl (congrArg (List.map Task.place) htasks) ?_
      rw [Scene.step, hworld]
      exact World.length_modifyStation _ _ _
  | shutDown =>
      obtain ⟨hworld, htasks, -⟩ := s.schedule.shutDown_eq place
      refine h.of_states rfl (congrArg (List.map Task.place) htasks) ?_
      rw [Scene.step, hworld]
      exact (World.length_modifyStation _ _ _).trans (World.length_modifyStation _ _ _)
  | _ => exact h.of_states rfl rfl rfl

/-- Whoever is stopped changes nothing but the lock. -/
theorem moment_cancel (work : J → Work α) (hregular : s.Regular) (i : Nat) :
    (s.step work (.cancel i)).moment = s.moment := by
  rcases s.step_cancel work i with hsame | ⟨t, ht, -, hstep⟩
  · rw [hsame]
  · obtain ⟨-, hnow, hworld⟩ := Schedule.cancel_eq ht
    rw [hregular.places t (List.mem_of_getElem? ht)] at hworld
    have hstation := (congrArg (World.station · place) hworld).trans
      (World.station_modifyStation hregular.station _)
    have hbroker : (s.schedule.cancel i).world.broker = s.schedule.world.broker := by
      rw [hworld]
      rfl
    rw [hstep]
    exact moment_of_lock hbroker hnow hstation

/-- Whatever is no step of a task is, to each of them, something that others do. -/
theorem drift_step (hregular : s.Regular) {c : Choice J} (hc : ∀ i, c ≠ .act i) (j : Nat) :
    Drift j s.moment (s.step work c).moment := by
  have hraise : ∀ {u : Schedule α} (signal : Signal),
      u.world.broker = s.schedule.world.broker → u.now = s.schedule.now →
        u.world.station place = { s.station with signal } → s.station.signal.Raised signal →
          Drift j s.moment ({ s with schedule := u } : Scene J α).moment := by
    intro u signal hbroker hnow hstation hraised
    have hmoment : ({ s with schedule := u } : Scene J α).moment =
        { s.moment with now := s.schedule.now, signal, past := s.past ++ [] } := by
      simp only [moment, groundOf, station, hbroker, hnow, hstation, List.append_nil]
    rw [hmoment]
    exact .single (.beside s.schedule.now signal [] (Nat.le_refl _) hraised (by simp))
  cases c with
  | act i => exact absurd rfl (hc i)
  | begin job => exact .refl
  | cancel i =>
      rw [moment_cancel work hregular i]
  | operate o =>
      simp only [step]
      split
      next huses => exact .single (.operated (m := s.moment) o huses)
      next => exact .refl
  | pass millis =>
      have hmoment : (s.step work (.pass millis)).moment =
          { s.moment with
            now := s.schedule.now + millis, signal := s.station.signal, past := s.past ++ [] } := by
        rw [List.append_nil]
        rfl
      rw [hmoment]
      exact .single (.beside _ _ [] (Nat.le_add_right _ _) (.refl _) (by simp))
  | bind bindings => exact hraise s.station.signal rfl rfl rfl (.refl _)
  | interrupt =>
      obtain ⟨hworld, -, hnow⟩ := s.schedule.interrupt_eq place
      refine hraise _ ?_ hnow (station_interrupt hregular.station) ⟨id, Nat.le_succ _⟩
      rw [hworld]
      rfl
  | shutDown =>
      obtain ⟨hworld, -, hnow⟩ := s.schedule.shutDown_eq place
      refine hraise _ ?_ hnow (station_shutDown hregular.station) ⟨fun _ => rfl, Nat.le_succ _⟩
      rw [hworld]
      rfl

/-- Nobody changes the manager but whoever puts another in its place. -/
theorem manager_step (work : J → Work α) (hregular : s.Regular) (c : Choice J) :
    (s.step work c).moment.manager = s.moment.manager ∨
      ∃ i x next, c = .act i ∧ s.state? i = some (.ready (Script.ask (.keep x) next)) := by
  by_cases hc : ∃ i, c = .act i
  · obtain ⟨i, rfl⟩ := hc
    rcases (hregular.acts i).moment with hsame | ⟨r, a, ⟨met, hmet, hnoted⟩, hasked⟩
    · exact .inl (congrArg (fun m : Moment => m.manager) hsame)
    · have hmanager : (s.act i).moment.manager = met.manager := by
        rw [hnoted]
        rfl
      cases hmet with
      | keep x =>
          rcases hasked with hrest | hlock | ⟨next, hstate⟩
          · cases hrest
          · cases hlock
          · exact .inr ⟨i, x, next, rfl, hstate⟩
      | _ => exact .inl hmanager
  · exact .inl (drift_step hregular (fun i heq => hc ⟨i, heq⟩) 0).manager

/-- A task has done nothing more unless it moves. -/
theorem own_step_of_ne (work : J → Work α) (hregular : s.Regular) {c : Choice J}
    (hact : c ≠ .act j) : (s.step work c).moment.own j = s.moment.own j := by
  by_cases hc : ∃ i, c = .act i
  · obtain ⟨i, rfl⟩ := hc
    have hij : j ≠ i := fun heq => hact (congrArg Choice.act heq.symm)
    rcases (hregular.acts i).moment with hsame | ⟨r, a, hanswered, -⟩
    · exact congrArg (Moment.own · j) hsame
    · exact own_of_answered hanswered hij
  · exact (drift_step hregular (fun i heq => hc ⟨i, heq⟩) j).own

/-- A task stands as before unless it moves or is stopped. -/
theorem state?_step_of_ne (hregular : s.Regular) {c : Choice J} (hj : (s.state? j).isSome)
    (hact : c ≠ .act j) (hcancel : c ≠ .cancel j) : (s.step work c).state? j = s.state? j := by
  cases c with
  | begin job =>
      have hne : j ≠ s.schedule.tasks.length := by
        rintro rfl
        simp [state?] at hj
      exact (state?_begin s job j).trans (if_neg hne)
  | act i => exact others_act hregular fun heq => hact (congrArg Choice.act heq.symm)
  | cancel i =>
      have hij : i ≠ j := fun heq => hcancel (congrArg Choice.cancel heq)
      rcases s.step_cancel work i with hsame | ⟨t, ht, -, hstep⟩
      · rw [hsame]
      · rw [hstep, state?, state?, (Schedule.cancel_eq ht).1, List.getElem?_modify_ne _ _ hij]
  | operate o =>
      simp only [step]
      split <;> rfl
  | interrupt => rw [state?, step, (s.schedule.interrupt_eq place).2.1, state?]
  | shutDown => rw [state?, step, (s.schedule.shutDown_eq place).2.1, state?]
  | _ => rfl

/-- Whoever is stopped stands as one that was stopped, and everybody else as before. -/
theorem state?_cancel (work : J → Work α) (s : Scene J α) (i : Nat) :
    (s.step work (.cancel i)).state? i = s.state? i ∨
      (s.step work (.cancel i)).state? i = some .cancelled := by
  rcases s.step_cancel work i with hsame | ⟨t, ht, -, hstep⟩
  · exact .inl (congrArg (state? · i) hsame)
  · right
    rw [hstep, state?, (Schedule.cancel_eq ht).1, List.getElem?_modify_eq, ht]
    rfl

/-- Whoever has come back has nothing more to do. -/
theorem state?_step_of_over (work : J → Work α) (hregular : s.Regular) {state : TaskState α}
    (hstate : s.state? i = some state) (hover : state.goesOn = false) (c : Choice J) :
    (s.step work c).state? i = some state ∨
      (∃ x, state = .ready (.done x) ∧ (s.step work c).state? i = some (.finished x)) ∨
      (s.step work c).state? i = some .cancelled := by
  by_cases hact : c = .act i
  · subst hact
    have hnot : ∀ {state' : TaskState α}, s.state? i = some state' → state'.goesOn ≠ true := by
      intro state' hstate'
      obtain rfl := Option.some.inj (hstate.symm.trans hstate')
      simp [hover]
    cases hregular.acts i with
    | stays hcan h => exact .inl (by rw [step, h, hstate])
    | returns hstate' hto hmoment =>
        exact .inr (.inl ⟨_, Option.some.inj (hstate.symm.trans hstate'), hto.state⟩)
    | answered hstate' => exact absurd rfl (hnot hstate')
    | rests hstate' => exact absurd rfl (hnot hstate')
    | queues hstate' => exact absurd rfl (hnot hstate')
    | wakes hstate' => exact absurd rfl (hnot hstate')
    | granted hstate' => exact absurd rfl (hnot hstate')
  by_cases hcancel : c = .cancel i
  · subst hcancel
    rcases state?_cancel work s i with hsame | hcancelled
    · exact .inl (hsame.trans hstate)
    · exact .inr (.inr hcancelled)
  · exact .inl ((state?_step_of_ne hregular (by simp [hstate]) hact hcancel).trans hstate)

/-- How a task stands after something that is not its own step: as before, or it was begun or
stopped just now. -/
theorem state?_step (hregular : s.Regular) {c : Choice J} (hact : c ≠ .act j)
    {state : TaskState α} (h : (s.step work c).state? j = some state) :
    s.state? j = some state ∨ (state = .cancelled ∧ c = .cancel j) ∨
      ∃ job, c = .begin job ∧ j = s.schedule.tasks.length ∧ state = .ready (work job) := by
  cases c with
  | begin job =>
      rw [state?_begin] at h
      split at h
      next hj => exact .inr (.inr ⟨job, rfl, hj, (Option.some.inj h).symm⟩)
      next => exact .inl h
  | act i =>
      rw [step, others_act hregular fun heq => hact (congrArg Choice.act heq.symm)] at h
      exact .inl h
  | cancel i =>
      by_cases hij : i = j
      · subst hij
        rcases state?_cancel work s i with hsame | hcancelled
        · exact .inl (hsame ▸ h)
        · exact .inr (.inl ⟨Option.some.inj (h.symm.trans hcancelled), rfl⟩)
      · rcases s.step_cancel work i with hsame | ⟨t, ht, -, hstep⟩
        · exact .inl (hsame ▸ h)
        · rw [hstep, state?, (Schedule.cancel_eq ht).1, List.getElem?_modify_ne _ _ hij] at h
          exact .inl h
  | operate o =>
      simp only [step] at h
      split at h <;> exact .inl h
  | interrupt =>
      rw [state?, step, (s.schedule.interrupt_eq place).2.1] at h
      exact .inl h
  | shutDown =>
      rw [state?, step, (s.schedule.shutDown_eq place).2.1] at h
      exact .inl h
  | _ => exact .inl h

/-- Whoever has come back or was stopped does not go on any more. -/
theorem goesOn_step (hregular : s.Regular) (hi : i < s.schedule.tasks.length)
    (h : s.goesOn i = false) (c : Choice J) : (s.step work c).goesOn i = false := by
  obtain ⟨state, hstate⟩ := exists_state hi
  rw [goesOn, hstate, Option.any_some] at h
  rcases state?_step_of_over work hregular hstate h c with hsame | ⟨x, -, hnow⟩ | hnow
  · rw [goesOn, hsame, Option.any_some, h]
  · rw [goesOn, hnow]
    rfl
  · rw [goesOn, hnow]
    rfl

/-- Whoever comes back does so by moving, unless stopped. -/
theorem act_of_returned (hregular : s.Regular) {c : Choice J} (hgoes : s.goesOn i = true)
    (hback : (s.step work c).goesOn i = false) (hcancel : c ≠ .cancel i) : c = .act i := by
  by_contra hact
  have hi : (s.state? i).isSome := by
    cases hstate : s.state? i with
    | none => simp [goesOn, hstate] at hgoes
    | some state => rfl
  rw [goesOn, state?_step_of_ne hregular hi hact hcancel, ← goesOn, hgoes] at hback
  cases hback

theorem cancelled_of_step (work : J → Work α) (hregular : s.Regular) {c : Choice J}
    (hc : ∀ i, c ≠ .cancel i) (h : (s.step work c).state? i = some .cancelled) :
    s.state? i = some .cancelled := by
  by_cases hact : c = .act i
  · subst hact
    rcases (hregular.acts i).turned with hsame | ⟨state, hturned, hgoes⟩
    · exact hsame ▸ h
    · exact absurd (Option.some.inj (hturned.state.symm.trans h)) hgoes
  · rcases state?_step hregular hact h with hsame | ⟨-, heq⟩ | ⟨job, -, -, hstate⟩
    · exact hsame
    · exact absurd heq (hc i)
    · cases hstate

/-- Whoever was stopped does nothing more. -/
theorem own_step_of_cancelled (hregular : s.Regular) (h : s.state? i = some .cancelled)
    (c : Choice J) : (s.step work c).moment.own i = s.moment.own i := by
  by_cases hact : c = .act i
  · subst hact
    rw [step, act_eq_self (by simp [h])]
  · exact own_step_of_ne work hregular hact

/-- Whoever has come back stays so, unless stopped after all. -/
theorem outcome_step (work : J → Work α) (hregular : s.Regular) {x : α}
    (h : s.outcome? i = some x) (c : Choice J) :
    (s.step work c).outcome? i = some x ∨ (s.step work c).state? i = some .cancelled := by
  rcases state_of_outcome h with hstate | hstate
  · rcases state?_step_of_over work hregular hstate rfl c with h | ⟨y, ⟨⟩, h⟩ | h
    · exact .inl (by rw [outcome?, h])
    · exact .inl (by rw [outcome?, h])
    · exact .inr h
  · rcases state?_step_of_over work hregular hstate rfl c with h | ⟨y, hy, -⟩ | h
    · exact .inl (by rw [outcome?, h])
    · cases hy
    · exact .inr h

theorem cancelled_step (hregular : s.Regular) (h : s.state? i = some .cancelled)
    (c : Choice J) : (s.step work c).state? i = some .cancelled := by
  rcases state?_step_of_over work hregular h rfl c with h | ⟨y, hy, -⟩ | h
  · exact h
  · cases hy
  · exact h

/-- Nobody makes time pass but whoever lets it pass. -/
theorem now_step (hregular : s.Regular) {c : Choice J} (hc : ∀ millis, c ≠ .pass millis) :
    (s.step work c).schedule.now = s.schedule.now := by
  cases c with
  | act i =>
      rcases (hregular.acts i).turned with hsame | ⟨state, hturned, -⟩
      · rw [step, hsame]
      · exact hturned.now
  | cancel i =>
      rcases s.step_cancel work i with hsame | ⟨t, ht, -, hstep⟩
      · rw [hsame]
      · rw [hstep]
        exact (Schedule.cancel_eq ht).2.1
  | operate o =>
      simp only [step]
      split <;> rfl
  | pass millis => exact absurd rfl (hc millis)
  | interrupt => exact (s.schedule.interrupt_eq place).2.2
  | shutDown => exact (s.schedule.shutDown_eq place).2.2
  | _ => rfl

end Scene

end Sluice
