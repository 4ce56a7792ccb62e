import Sluice.Proofs.Task.Progress

/-! # Ranks before the lock

Tasks ask for the lock of the station one after another, and it is granted in that order. So those
who asked and have not come back are whoever holds the lock and the line for it; whoever asked after
one of them has done nothing yet that anybody could notice; and what tasks delivered they delivered
in the order of asking.
-/

namespace Sluice

namespace Event

/-- The messages that a step delivered. -/
def sent (e : Event) : List Parcel :=
  match e.deed with
  | .operated o => e.before.broker.delivered e.now o
  | _ => []

/-- A step that made use of nothing and changed nothing. -/
structure Idle (e : Event) : Prop where
  deed : e.deed = .other
  after : e.after = e.before

theorem Idle.sent {e : Event} (h : e.Idle) : e.sent = [] := by rw [Event.sent, h.deed]

end Event

/-- Whether a task has not come back yet. Whoever has nothing left to ask has come back. -/
def TaskState.goesOn {α : Type} : TaskState α → Bool
  | .ready (.done _) => false
  | .ready (Script.ask _ _) => true
  | .resting _ _ _ => true
  | .inLine _ => true
  | .finished _ => false
  | .cancelled => false

namespace Lock

variable {l : Lock} {i : Nat}

/-- Whoever holds a lock, and the line behind. -/
def members (l : Lock) : List Nat := l.holder.toList ++ l.line

theorem members_join (h : l.Orderly) (i : Nat) : (l.join i).members = l.members ++ [i] := by
  cases hholder : l.holder with
  | none => simp [members, join_of_free hholder, hholder, h.free hholder]
  | some j => simp [members, join_of_taken hholder, hholder]

theorem members_of_holder (h : l.holder = some i) : l.members = i :: l.line := by
  rw [members, h]
  rfl

theorem members_pass (h : l.Orderly) (hholder : l.holder = some i) :
    l.pass.members = l.members.filter (· ≠ i) := by
  have hline : l.line.filter (· ≠ i) = l.line := by
    rw [List.filter_eq_self]
    intro j hj
    exact decide_eq_true fun heq => h.apart i hholder (heq ▸ hj)
  rw [members_of_holder hholder, List.filter_cons_of_neg (by simp), hline]
  unfold members pass
  cases l.line <;> rfl

theorem members_leave (hholder : l.holder ≠ some i) :
    (l.leave i).members = l.members.filter (· ≠ i) := by
  unfold members leave
  rw [List.filter_append]
  congr 1
  cases hcase : l.holder with
  | none => rfl
  | some j =>
      rw [hcase, ne_eq, Option.some.injEq] at hholder
      simp [hholder]

end Lock

namespace Scene

variable {J α : Type} {direct : J → Bool} {asked : List Nat} {s s' : Scene J α} {i j : Nat}
variable {events : List Event}

/-- Whether a task has not come back yet. -/
def goesOn (s : Scene J α) (i : Nat) : Bool := (s.state? i).any TaskState.goesOn

/-- What a task has come to, if it has come back. -/
def outcome? (s : Scene J α) (i : Nat) : Option α :=
  match s.state? i with
  | some (.ready (.done x)) => some x
  | some (.finished x) => some x
  | _ => none

theorem state_of_outcome {x : α} (h : s.outcome? i = some x) :
    s.state? i = some (.ready (.done x)) ∨ s.state? i = some (.finished x) := by
  rw [outcome?] at h
  split at h
  next y hstate => exact .inl (Option.some.inj h ▸ hstate)
  next y hstate => exact .inr (Option.some.inj h ▸ hstate)
  next => cases h

/-- Whoever has come back has nothing more to do. -/
theorem goesOn_of_outcome {x : α} (h : s.outcome? i = some x) : s.goesOn i = false := by
  rcases state_of_outcome h with hstate | hstate <;> simp [goesOn, hstate, TaskState.goesOn]

/-- A task that goes on has not come back and was not stopped, and conversely. -/
theorem goesOn_iff {state : TaskState α} (hstate : s.state? i = some state) :
    s.goesOn i = true ↔ s.outcome? i = none ∧ state ≠ .cancelled := by
  rw [goesOn, outcome?, hstate, Option.any_some]
  cases state with
  | ready w => cases w <;> simp [TaskState.goesOn]
  | _ => simp [TaskState.goesOn]

section Sound

variable {T : Terms} {account : J → α → List Event → Prop}

theorem Sound.job_of_outcome (hsound : s.Sound T account) {x : α} (h : s.outcome? i = some x) :
    ∃ job, s.jobs[i]? = some job := by
  rcases state_of_outcome h with hstate | hstate <;> exact hsound.job_of_state hstate

/-- What a task has done that has come back. -/
theorem Sound.outcome (hsound : s.Sound T account) {job : J} {x : α}
    (hjob : s.jobs[i]? = some job) (h : s.outcome? i = some x) :
    account job x (s.moment.own i) := by
  have hstands : ∀ {state : TaskState α}, s.state? i = some state →
      T.Stands (account job) i (s.holds i) s.moment state := by
    intro state hstate
    obtain ⟨t, ht, rfl⟩ := Option.map_eq_some_iff.mp hstate
    exact hsound.stands i t job ht hjob
  rcases state_of_outcome h with hstate | hstate <;> exact (hstands hstate).2

end Sound

/-- The messages that a task delivered. -/
def sentBy (s : Scene J α) (i : Nat) : List Parcel := (s.moment.own i).flatMap Event.sent

/-- The messages that tasks delivered, each with the task, the oldest first. -/
def deliveries (s : Scene J α) : List (Nat × Parcel) :=
  s.past.flatMap fun e => match e.task with
    | some i => e.sent.map (i, ·)
    | none => []

/-- A task has done nothing that anybody could notice; one that begins by asking for the lock has
done nothing at all. -/
structure Untouched (direct : J → Bool) (s : Scene J α) (i : Nat) : Prop where
  idle : ∀ e ∈ s.moment.own i, e.Idle
  nothing : ∀ job, s.jobs[i]? = some job → direct job = true → s.moment.own i = []

theorem Untouched.sentBy (h : s.Untouched direct i) : s.sentBy i = [] := by
  rw [Scene.sentBy, List.flatMap_eq_nil_iff]
  exact fun e he => (h.idle e he).sent

/-- Tasks that asked for the lock one after another: those who have not come back hold it or are in
line for it. -/
structure Ranked (direct : J → Bool) (asked : List Nat) (s : Scene J α) : Prop where
  nodup : asked.Nodup
  queue : asked.filter s.goesOn = s.station.lock.members
  behind : asked.Pairwise fun i j => s.goesOn i = true → s.Untouched direct j
  fresh : ∀ i, i ∉ asked → s.Untouched direct i
  log : s.deliveries = asked.flatMap fun i => (s.sentBy i).map (i, ·)

/-- A task moved, and what it did is noted. -/
structure Moves (i : Nat) (events : List Event) (s s' : Scene J α) : Prop where
  past : s'.past = s.past ++ events
  mine : ∀ e ∈ events, e.task = some i
  others : ∀ j, j ≠ i → s'.goesOn j = s.goesOn j
  jobs : ∀ j, j ≠ i → s'.jobs[j]? = s.jobs[j]?

namespace Moves

variable (h : Moves i events s s')

include h

theorem own : s'.moment.own i = s.moment.own i ++ events := by
  change s'.past.filter _ = _
  rw [h.past, List.filter_append]
  congr 1
  rw [List.filter_eq_self]
  intro e he
  simp [h.mine e he]

theorem own_of_ne (hj : j ≠ i) : s'.moment.own j = s.moment.own j := by
  change s'.past.filter _ = s.past.filter _
  have hnone : events.filter (fun e => e.task = some j) = [] := by
    rw [List.filter_eq_nil_iff]
    intro e he
    simpa [h.mine e he] using fun heq => hj heq.symm
  rw [h.past, List.filter_append, hnone, List.append_nil]

theorem sentBy_of_ne (hj : j ≠ i) : s'.sentBy j = s.sentBy j := by
  rw [sentBy, h.own_of_ne hj, sentBy]

theorem untouched_of_ne (hj : j ≠ i) (huntouched : s.Untouched direct j) :
    s'.Untouched direct j where
  idle := h.own_of_ne hj ▸ huntouched.idle
  nothing := by
    rw [h.own_of_ne hj, h.jobs j hj]
    exact huntouched.nothing

theorem untouched_of_nil (hnone : events = []) (hjobs : s'.jobs = s.jobs)
    (huntouched : s.Untouched direct j) : s'.Untouched direct j := by
  have hown : s'.moment.own j = s.moment.own j := by
    change s'.past.filter _ = s.past.filter _
    rw [h.past, hnone, List.append_nil]
  refine ⟨hown ▸ huntouched.idle, ?_⟩
  rw [hown, hjobs]
  exact huntouched.nothing

theorem deliveries : s'.deliveries = s.deliveries ++ (events.flatMap Event.sent).map (i, ·) := by
  rw [Scene.deliveries, h.past, List.flatMap_append, Scene.deliveries, List.map_flatMap]
  congr 1
  refine List.flatMap_congr fun e he => ?_
  rw [h.mine e he]

/-- Whoever does nothing that can be noticed delivers nothing. -/
theorem silent (hidle : ∀ e ∈ events, e.Idle) :
    s'.deliveries = s.deliveries ∧ ∀ j, s'.sentBy j = s.sentBy j := by
  have hnone : events.flatMap Event.sent = [] :=
    List.flatMap_eq_nil_iff.mpr fun e he => (hidle e he).sent
  refine ⟨by simp [h.deliveries, hnone], fun j => ?_⟩
  by_cases hj : j = i
  · subst hj
    rw [sentBy, h.own, List.flatMap_append, hnone, List.append_nil, sentBy]
  · exact h.sentBy_of_ne hj

end Moves

/-- Nobody before the first that goes on goes on. -/
theorem pairwise_of_filter {p : Nat → Bool} {rest : List Nat} (hnodup : asked.Nodup)
    (h : asked.filter p = i :: rest) : asked.Pairwise fun a b => b = i → p a = false := by
  induction asked with
  | nil => exact .nil
  | cons a asked ih =>
      obtain ⟨hnew, hnodup⟩ := List.nodup_cons.mp hnodup
      cases hp : p a with
      | true =>
          rw [List.filter_cons_of_pos hp, List.cons.injEq] at h
          obtain ⟨rfl, -⟩ := h
          refine .cons (fun b hb heq => absurd (heq ▸ hb) hnew) ?_
          refine hnodup.imp_of_mem fun _ hb _ heq => absurd (heq ▸ hb) hnew
      | false =>
          rw [List.filter_cons_of_neg (by simp [hp])] at h
          exact .cons (fun _ _ _ => hp) (ih hnodup h)

namespace Ranked

variable (h : s.Ranked direct asked)

include h

/-- Whoever holds the lock has asked for it, and nobody who asked before goes on. -/
theorem first (hholder : s.station.lock.holder = some i) :
    i ∈ asked ∧ s.goesOn i = true ∧ asked.Pairwise fun a b => b = i → s.goesOn a = false := by
  have hqueue := h.queue
  rw [Lock.members_of_holder hholder] at hqueue
  obtain ⟨hmem, hgoes⟩ := List.mem_filter.mp (hqueue ▸ List.mem_cons_self : i ∈ asked.filter _)
  exact ⟨hmem, hgoes, pairwise_of_filter h.nodup hqueue⟩

/-- Others did something. -/
theorem beside (hgoes : ∀ j, s'.goesOn j = s.goesOn j) (hjobs : s'.jobs = s.jobs)
    (hlock : s'.station.lock = s.station.lock)
    (hown : ∀ j, s'.moment.own j = s.moment.own j)
    (hlog : s'.deliveries = s.deliveries) : s'.Ranked direct asked := by
  have huntouched : ∀ j, s.Untouched direct j → s'.Untouched direct j :=
    fun j hj => ⟨hown j ▸ hj.idle, by rw [hown j, hjobs]; exact hj.nothing⟩
  refine ⟨h.nodup, ?_, h.behind.imp fun hab hgoes' => huntouched _ (hab (hgoes _ ▸ hgoes')),
    fun j hj => huntouched j (h.fresh j hj), ?_⟩
  · rw [List.filter_congr fun j _ => hgoes j, hlock, h.queue]
  · simp only [hlog, h.log, sentBy, hown]

/-- Whoever holds the lock did something. -/
theorem worked (hmoves : Moves i events s s') (hlock : s'.station.lock = s.station.lock)
    (hholder : s.station.lock.holder = some i) (hgoes : s'.goesOn i = true) :
    s'.Ranked direct asked := by
  obtain ⟨hmem, hgoes', hfirst⟩ := h.first hholder
  have hsame : ∀ j, s'.goesOn j = s.goesOn j := by
    intro j
    by_cases hj : j = i
    · rw [hj, hgoes, hgoes']
    · exact hmoves.others j hj
  refine ⟨h.nodup, ?_, ?_, ?_, ?_⟩
  · rw [List.filter_congr fun j _ => hsame j, hlock, h.queue]
  · refine (h.behind.and hfirst).imp fun {a b} hab hgoesa => ?_
    rw [hsame] at hgoesa
    by_cases hb : b = i
    · simp [hab.2 hb] at hgoesa
    · exact hmoves.untouched_of_ne hb (hab.1 hgoesa)
  · intro j hj
    exact hmoves.untouched_of_ne (fun heq => hj (heq ▸ hmem)) (h.fresh j hj)
  -- what is delivered now comes last, since nobody who asked later has delivered anything
  · have hnodup := h.nodup
    have hbehind := h.behind
    rw [hmoves.deliveries, h.log]
    obtain ⟨before, after, rfl⟩ := List.append_of_mem hmem
    have hbefore : ∀ j ∈ before, j ≠ i := by
      rintro j hj rfl
      exact (List.nodup_append.mp hnodup).2.2 j hj j List.mem_cons_self rfl
    have hafter : ∀ j ∈ after, s.sentBy j = [] ∧ j ≠ i := by
      intro j hj
      refine ⟨?_, ?_⟩
      · have htail := (List.pairwise_append.mp hbehind).2.1
        exact ((List.pairwise_cons.mp htail).1 j hj hgoes').sentBy
      · rintro rfl
        exact (List.nodup_cons.mp (List.nodup_append.mp hnodup).2.1).1 hj
    have hnone : ∀ {t : Scene J α}, (∀ j ∈ after, t.sentBy j = []) →
        (after.flatMap fun j => (t.sentBy j).map (j, ·)) = [] := by
      intro t ht
      rw [List.flatMap_eq_nil_iff]
      intro j hj
      rw [ht j hj]
      rfl
    have hsent : s'.sentBy i = s.sentBy i ++ events.flatMap Event.sent := by
      rw [sentBy, hmoves.own, List.flatMap_append, sentBy]
    simp only [List.flatMap_append, List.flatMap_cons, hsent, List.map_append]
    rw [hnone fun j hj => (hafter j hj).1, hnone fun j hj => by
      rw [hmoves.sentBy_of_ne (hafter j hj).2, (hafter j hj).1]]
    simp only [List.append_nil, List.append_assoc]
    congr 1
    refine List.flatMap_congr fun j hj => ?_
    rw [hmoves.sentBy_of_ne (hbefore j hj)]

/-- Those who asked stay in rank when somebody moves who did not. -/
theorem behind_of_new (hmoves : Moves i events s s') (hnew : i ∉ asked) :
    asked.Pairwise fun a b => s'.goesOn a = true → s'.Untouched direct b := by
  have hne : ∀ j ∈ asked, j ≠ i := fun j hj heq => hnew (heq ▸ hj)
  refine h.behind.imp_of_mem fun {a b} ha hb hab hgoes => ?_
  rw [hmoves.others a (hne a ha)] at hgoes
  exact hmoves.untouched_of_ne (hne b hb) (hab hgoes)

/-- Whoever has not asked for the lock did something. -/
theorem aside (hmoves : Moves i events s s') (hlock : s'.station.lock = s.station.lock)
    (hnew : i ∉ asked) (hidle : ∀ e ∈ events, e.Idle) (huntouched : s'.Untouched direct i) :
    s'.Ranked direct asked := by
  obtain ⟨hlog, hsent⟩ := hmoves.silent hidle
  have hne : ∀ j ∈ asked, j ≠ i := fun j hj heq => hnew (heq ▸ hj)
  refine ⟨h.nodup, ?_, h.behind_of_new hmoves hnew, ?_, ?_⟩
  · rw [List.filter_congr fun j hj => hmoves.others j (hne j hj), hlock, h.queue]
  · intro j hj
    by_cases hji : j = i
    · exact hji ▸ huntouched
    · exact hmoves.untouched_of_ne hji (h.fresh j hj)
  · simp only [hlog, h.log, hsent]

/-- Somebody asked for the lock, and was given it at once only if nobody held it. -/
theorem join (hmoves : Moves i events s s') (hjobs : s'.jobs = s.jobs) (hnew : i ∉ asked)
    (hlock : s'.station.lock.members = s.station.lock.members ++ [i]) (hgoes : s'.goesOn i = true)
    (hidle : ∀ e ∈ events, e.Idle) (hfree : events ≠ [] → s.station.lock.members = []) :
    s'.Ranked direct (asked ++ [i]) := by
  obtain ⟨hlog, hsent⟩ := hmoves.silent hidle
  have hne : ∀ j ∈ asked, j ≠ i := fun j hj heq => hnew (heq ▸ hj)
  refine ⟨?_, ?_, ?_, ?_, ?_⟩
  · rw [List.nodup_append]
    refine ⟨h.nodup, by simp, fun j hj k hk => ?_⟩
    rw [List.mem_singleton.mp hk]
    exact hne j hj
  · have hsame := List.filter_congr fun j hj => hmoves.others j (hne j hj)
    rw [List.filter_append, hsame, h.queue, hlock]
    simp [hgoes]
  · rw [List.pairwise_append]
    refine ⟨h.behind_of_new hmoves hnew, List.pairwise_singleton _ _, fun a ha b hb hgoesa => ?_⟩
    obtain rfl := List.mem_singleton.mp hb
    -- if somebody goes on who asked before then the lock is not free
    rw [hmoves.others a (hne a ha)] at hgoesa
    have hmem : a ∈ s.station.lock.members := h.queue ▸ List.mem_filter.mpr ⟨ha, hgoesa⟩
    have hnone : events = [] := by
      by_contra hsome
      rw [hfree hsome] at hmem
      exact absurd hmem List.not_mem_nil
    exact hmoves.untouched_of_nil hnone hjobs (h.fresh b hnew)
  · intro j hj
    rw [List.mem_append, List.mem_singleton, not_or] at hj
    exact hmoves.untouched_of_ne hj.2 (h.fresh j hj.1)
  · have hnone : s.sentBy i = [] := (h.fresh i hnew).sentBy
    rw [List.flatMap_append, hlog, h.log]
    simp [hsent, hnone]

/-- Somebody came back or was stopped. -/
theorem leave (hmoves : Moves i events s s') (hjobs : s'.jobs = s.jobs)
    (hlock : s'.station.lock.members = s.station.lock.members.filter (· ≠ i))
    (hgoes : s'.goesOn i = false) (hidle : ∀ e ∈ events, e.Idle)
    (hholder : events ≠ [] → s.station.lock.holder = some i) : s'.Ranked direct asked := by
  obtain ⟨hlog, hsent⟩ := hmoves.silent hidle
  refine ⟨h.nodup, ?_, ?_, ?_, ?_⟩
  · rw [hlock, ← h.queue, List.filter_filter]
    refine List.filter_congr fun j _ => ?_
    by_cases hj : j = i
    · simp [hj, hgoes]
    · simp [hj, hmoves.others j hj]
  · have hfirst : asked.Pairwise fun a b => b = i → events ≠ [] → s.goesOn a = false := by
      by_cases hsome : events = []
      · exact h.behind.imp fun _ _ hnone => absurd hsome hnone
      · exact (h.first (hholder hsome)).2.2.imp fun hab hb _ => hab hb
    refine (h.behind.and hfirst).imp fun {a b} hab hgoesa => ?_
    have ha : a ≠ i := by
      rintro rfl
      simp [hgoes] at hgoesa
    rw [hmoves.others a ha] at hgoesa
    by_cases hb : b = i
    · have hnone : events = [] := by
        by_contra hsome
        simp [hab.2 hb hsome] at hgoesa
      exact hmoves.untouched_of_nil hnone hjobs (hab.1 hgoesa)
    · exact hmoves.untouched_of_ne hb (hab.1 hgoesa)
  · intro j hj
    by_cases hji : j = i
    · have hnone : events = [] := by
        by_contra hsome
        exact hj (hji ▸ (h.first (hholder hsome)).1)
      exact hmoves.untouched_of_nil hnone hjobs (h.fresh j hj)
    · exact hmoves.untouched_of_ne hji (h.fresh j hj)
  · simp only [hlog, h.log, hsent]

end Ranked

end Scene

end Sluice
