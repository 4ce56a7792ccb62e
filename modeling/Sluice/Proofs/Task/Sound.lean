import Sluice.Proofs.Task.Line
import Sluice.Proofs.Task.Scene
import Sluice.Proofs.Task.Terms

/-! # Whoever abides by the terms keeps them for all

A task that abides by terms asks for the lock before it does anything else, works on the terms while
it holds the lock, and gives it back. If all tasks of a scene do so then the terms are kept in every
scene that follows, whatever is chosen: the lock lets one task work at a time, and nobody else
touches what belongs to the station.
-/

namespace Sluice

namespace Request

/-- Whether a request may be asked, inside the lock or outside. -/
def isAllowed (r : Request) : (inside : Bool) → Bool
  | true => match r with
    | .unlock => true
    | r => r.isInside
  | false => match r with
    | .lock => true
    | .shutDown => true
    | .interrupt => true
    | _ => false

/-- Whether a task is inside the lock after a request. -/
def leadsInside : Request → (inside : Bool) → Bool
  | .lock, _ => true
  | .unlock, _ => false
  | _, inside => inside

end Request

namespace Terms

variable {α β : Type} {T : Terms} {i : Nat} {m m' : Moment}
variable {account : α → List Event → Prop}

/-- A script abides by terms, and what it has done in the end fits an account of its result. -/
def Abides (T : Terms) (i : Nat) (account : α → List Event → Prop) : Work α → Bool → Moment → Prop
  | .done x, inside, m => inside = false ∧ account x (m.own i)
  | Script.ask r next, true, m => r.isAllowed true = true ∧ ∀ m', Drift i m m' →
      T.safe m' ∧ (r.isRest = true → T.calm m' ∧ T.resting (m'.own i)) ∧
        (r = .unlock → T.calm m') ∧
        ∀ a m'', Answered i m' r a m'' → T.Abides i account (next a) (r.leadsInside true) m''
  | Script.ask r next, false, m => r.isAllowed false = true ∧ ∀ m', m'.own i = m.own i →
      (r = .lock → T.calm m') →
        ∀ a m'', Answered i m' r a m'' → T.Abides i account (next a) (r.leadsInside false) m''

theorem abides_of_secures {w : Work β} {f : β → Work α}
    (h : T.Secures i (fun x m => T.Abides i account (f x) true m) w m) :
    T.Abides i account (w >>= f) true m := by
  induction w generalizing m with
  | done x => exact (h m .refl).2
  | ask r next ih =>
      obtain ⟨-, hinside, -, -⟩ := h m .refl
      -- a script that is made inside the lock does not give it back by itself
      have hunlock : r ≠ .unlock := by
        intro heq
        simp [heq, Request.isInside] at hinside
      refine ⟨?_, fun m' hdrift => ?_⟩
      · cases r <;> simp_all [Request.isAllowed, Request.isInside]
      · obtain ⟨hsafe, -, hrest, hnext⟩ := h m' hdrift
        refine ⟨hsafe, hrest, fun heq => absurd heq hunlock, fun a m'' ha => ?_⟩
        have hleads : r.leadsInside true = true := by
          cases r <;> simp_all [Request.leadsInside]
        rw [hleads]
        exact ih a (hnext a m'' ha)

/-- Work inside the lock, begun at any calm moment. -/
theorem abides_locked {body : Work β} {f : β → α}
    (h : ∀ m', T.calm m' → m'.own i = m.own i →
      T.Secures i (fun x m'' => T.calm m'' ∧ account (f x) ((m''.idled i .other).own i)) body
        (m'.idled i .other)) :
    T.Abides i account (Work.locked body >>= fun x => Script.done (f x)) false m := by
  refine ⟨rfl, fun m₁ hown hcalm a m₂ hanswered => ?_⟩
  obtain ⟨met, hmet, rfl⟩ := hanswered
  cases hmet
  -- others may act between the last request of the body and the one that unlocks
  have hbody := (h m₁ (hcalm rfl) hown).stably
  change T.Abides i account ((body >>= fun x => (Work.ask .unlock >>= fun _ => Script.done x)) >>=
    fun x => Script.done (f x)) true (m₁.idled i .other)
  rw [bind_assoc]
  refine abides_of_secures (hbody.mono fun x m₂ hx => ?_)
  refine ⟨rfl, fun m₃ hdrift => ?_⟩
  obtain ⟨hcalm, haccount⟩ := hx m₃ hdrift
  refine ⟨T.safe_of_calm m₃ hcalm, by simp [Request.isRest], fun _ => hcalm, ?_⟩
  intro a m₄ hanswered
  obtain ⟨met, hmet, rfl⟩ := hanswered
  cases hmet
  exact ⟨rfl, haccount⟩

/-- What a script abides by does not depend on what others do: inside the lock as far as they may
act there, outside whatever they do. -/
theorem Abides.move {w : Work α} {inside : Bool} (h : T.Abides i account w inside m)
    (hown : m'.own i = m.own i) (hdrift : inside = true → Drift i m m') :
    T.Abides i account w inside m' := by
  cases w with
  | done x =>
      refine ⟨h.1, ?_⟩
      rw [hown]
      exact h.2
  | ask r next =>
      cases inside with
      | true => exact ⟨h.1, fun m'' hdrift' => h.2 m'' ((hdrift rfl).trans hdrift')⟩
      | false => exact ⟨h.1, fun m'' hown' => h.2 m'' (hown'.trans hown)⟩

/-- How a task stands, which holds the lock or not. -/
def Stands (T : Terms) (account : α → List Event → Prop) (i : Nat) (holds : Bool) (m : Moment) :
    TaskState α → Prop
  | .ready w => T.Abides i account w holds m
  | .resting _ ticket next =>
      holds = true ∧ ∃ millis, T.Abides i account (Script.ask (.rest millis ticket) next) true m
  | .inLine next =>
      T.Abides i account (Script.ask .lock next) false m ∧ (holds = true → T.calm m)
  | .finished x => holds = false ∧ account x (m.own i)
  | .cancelled => holds = false

theorem Stands.move {holds : Bool} {state : TaskState α} (h : T.Stands account i holds m state)
    (hown : m'.own i = m.own i) (hdrift : holds = true → Drift i m m') :
    T.Stands account i holds m' state := by
  cases state with
  | ready w => exact Abides.move h hown hdrift
  | resting deadline ticket next =>
      obtain ⟨hholds, millis, habides⟩ := h
      exact ⟨hholds, millis, habides.move hown fun _ => hdrift hholds⟩
  | inLine next =>
      refine ⟨h.1.move hown (by simp), fun hholds => ?_⟩
      exact T.calm_stable.drift (hdrift hholds) (h.2 hholds)
  | finished x =>
      refine ⟨h.1, ?_⟩
      rw [hown]
      exact h.2
  | cancelled => exact h

/-- The terms are kept while a task holds the lock. -/
theorem Stands.safe {state : TaskState α} (h : T.Stands account i true m state) : T.safe m := by
  cases state with
  | ready w =>
      cases w with
      | done x => exact absurd h.1 (by simp)
      | ask r next => exact (h.2 m .refl).1
  | resting deadline ticket next =>
      obtain ⟨-, millis, habides⟩ := h
      exact (habides.2 m .refl).1
  | inLine next => exact T.safe_of_calm m (h.2 rfl)
  | finished x => exact absurd h.1 (by simp)
  | cancelled => exact absurd h (by simp [Stands])

end Terms

namespace Scene

variable {J α : Type}

/-- Whether a task holds the lock of the station. -/
def holds (s : Scene J α) (i : Nat) : Bool := s.station.lock.holder = some i

/-- All tasks abide by the terms, and the lock is passed on as it should be. -/
structure Sound (T : Terms) (account : J → α → List Event → Prop) (s : Scene J α) : Prop where
  station : 0 < s.schedule.world.stations.length
  jobs : s.jobs.length = s.schedule.tasks.length
  places : ∀ t ∈ s.schedule.tasks, t.place = place
  calm : s.station.lock.holder = none → T.calm s.moment
  stands : ∀ i t job, s.schedule.tasks[i]? = some t → s.jobs[i]? = some job →
    T.Stands (account job) i (s.holds i) s.moment t.state
  holder : ∀ i, s.station.lock.holder = some i → i < s.schedule.tasks.length
  line : ∀ i ∈ s.station.lock.line,
    ∃ t next, s.schedule.tasks[i]? = some t ∧ t.state = .inLine next
  orderly : s.station.lock.Orderly
  fresh : ∀ i, s.schedule.tasks.length ≤ i → s.moment.own i = []
  waits : ∀ i t next, s.schedule.tasks[i]? = some t → t.state = .inLine next →
    s.station.lock.holder = some i ∨ i ∈ s.station.lock.line

variable {T : Terms} {account : J → α → List Event → Prop} {s s' : Scene J α}

theorem Sound.job (h : s.Sound T account) {i : Nat} {t : Task α}
    (ht : s.schedule.tasks[i]? = some t) : ∃ job, s.jobs[i]? = some job := by
  have hlt : i < s.jobs.length := by
    rw [h.jobs]
    exact (List.getElem?_eq_some_iff.mp ht).1
  exact ⟨s.jobs[i], List.getElem?_eq_getElem hlt⟩

theorem Sound.safe (h : s.Sound T account) : T.safe s.moment := by
  cases hholder : s.station.lock.holder with
  | none => exact T.safe_of_calm _ (h.calm hholder)
  | some i =>
      have ht := List.getElem?_eq_getElem (h.holder i hholder)
      obtain ⟨job, hjob⟩ := h.job ht
      have hstands := h.stands i _ job ht hjob
      rw [holds, hholder, decide_eq_true rfl] at hstands
      exact hstands.safe

/-- Whatever others do among each other. -/
theorem Sound.beside (h : s.Sound T account) (htasks : s'.schedule.tasks = s.schedule.tasks)
    (hjobs : s'.jobs = s.jobs) (hlock : s'.station.lock = s.station.lock)
    (hstation : s'.schedule.world.stations.length = s.schedule.world.stations.length)
    (hdrift : ∀ i, Drift i s.moment s'.moment) : s'.Sound T account where
  station := hstation ▸ h.station
  jobs := by rw [hjobs, htasks, h.jobs]
  places := htasks ▸ h.places
  calm hnone := T.calm_stable.drift (hdrift 0) (h.calm (hlock ▸ hnone))
  stands i t job ht hjob := by
    rw [htasks] at ht
    rw [hjobs] at hjob
    rw [holds, hlock]
    exact (h.stands i t job ht hjob).move (hdrift i).own fun _ => hdrift i
  holder i hholder := by
    rw [htasks]
    exact h.holder i (hlock ▸ hholder)
  line i hmem := by
    rw [htasks]
    exact h.line i (hlock ▸ hmem)
  orderly := hlock ▸ h.orderly
  fresh i hle := by
    rw [(hdrift i).own]
    exact h.fresh i (htasks ▸ hle)
  waits i t next ht hstate := by
    rw [htasks] at ht
    rw [hlock]
    exact h.waits i t next ht hstate

/-- A task moves, and the others stand as before. -/
theorem stands_setState {i : Nat} {t : Task α} {job : J} {state : TaskState α}
    (h : s.Sound T account) (ht : s.schedule.tasks[i]? = some t) (hjob : s.jobs[i]? = some job)
    (htasks : s'.schedule.tasks = s.schedule.tasks.modify i fun t => { t with state })
    (hjobs : s'.jobs = s.jobs)
    (hstands : T.Stands (account job) i (s'.holds i) s'.moment state)
    (hothers : ∀ j t job, j ≠ i → s.schedule.tasks[j]? = some t → s.jobs[j]? = some job →
      T.Stands (account job) j (s.holds j) s.moment t.state →
        T.Stands (account job) j (s'.holds j) s'.moment t.state) :
    ∀ j t job, s'.schedule.tasks[j]? = some t → s'.jobs[j]? = some job →
      T.Stands (account job) j (s'.holds j) s'.moment t.state := by
  intro j t' job' ht' hjob'
  rw [htasks] at ht'
  rw [hjobs] at hjob'
  by_cases hij : i = j
  · subst hij
    rw [hjob] at hjob'
    rw [List.getElem?_modify_eq, ht] at ht'
    obtain rfl := Option.some.inj hjob'
    obtain rfl := Option.some.inj ht'
    exact hstands
  · rw [List.getElem?_modify_ne _ _ hij] at ht'
    exact hothers j t' job' (fun heq => hij heq.symm) ht' hjob' (h.stands j t' job' ht' hjob')

theorem places_setState {i : Nat} {state : TaskState α} (h : s.Sound T account)
    (htasks : s'.schedule.tasks = s.schedule.tasks.modify i fun t => { t with state }) :
    ∀ t ∈ s'.schedule.tasks, t.place = place := by
  intro t ht
  rw [htasks] at ht
  obtain ⟨j, hj⟩ := List.mem_iff_getElem?.mp ht
  by_cases hij : i = j
  · subst hij
    rw [List.getElem?_modify_eq, Option.map_eq_map, Option.map_eq_some_iff] at hj
    obtain ⟨t', hold, rfl⟩ := hj
    exact h.places t' (List.mem_of_getElem? hold)
  · rw [List.getElem?_modify_ne _ _ hij] at hj
    exact h.places t (List.mem_of_getElem? hj)

theorem line_setState {i : Nat} {state : TaskState α}
    (htasks : s'.schedule.tasks = s.schedule.tasks.modify i fun t => { t with state })
    {j : Nat} (hij : j ≠ i)
    (hj : ∃ t next, s.schedule.tasks[j]? = some t ∧ t.state = .inLine next) :
    ∃ t next, s'.schedule.tasks[j]? = some t ∧ t.state = .inLine next := by
  obtain ⟨t, next, ht, hstate⟩ := hj
  refine ⟨t, next, ?_, hstate⟩
  rw [htasks, List.getElem?_modify_ne _ _ fun heq => hij heq.symm, ht]

theorem fresh_setState {i : Nat} {t : Task α} {state : TaskState α} (h : s.Sound T account)
    (ht : s.schedule.tasks[i]? = some t)
    (htasks : s'.schedule.tasks = s.schedule.tasks.modify i fun t => { t with state })
    (hown : ∀ j, j ≠ i → s'.moment.own j = s.moment.own j) :
    ∀ j, s'.schedule.tasks.length ≤ j → s'.moment.own j = [] := by
  intro j hle
  rw [htasks, List.length_modify] at hle
  have hlt := (List.getElem?_eq_some_iff.mp ht).1
  rw [hown j (by omega)]
  exact h.fresh j hle

theorem waits_setState {i : Nat} {t : Task α} {state : TaskState α} (h : s.Sound T account)
    (ht : s.schedule.tasks[i]? = some t)
    (htasks : s'.schedule.tasks = s.schedule.tasks.modify i fun t => { t with state })
    (hstate : ∀ next, state = .inLine next → i ∈ s'.station.lock.line)
    (hothers : ∀ j, j ≠ i → s.station.lock.holder = some j ∨ j ∈ s.station.lock.line →
      s'.station.lock.holder = some j ∨ j ∈ s'.station.lock.line) :
    ∀ j t next, s'.schedule.tasks[j]? = some t → t.state = .inLine next →
      s'.station.lock.holder = some j ∨ j ∈ s'.station.lock.line := by
  intro j t' next ht' hinLine
  rw [htasks] at ht'
  by_cases hij : i = j
  · subst hij
    rw [List.getElem?_modify_eq, ht] at ht'
    obtain rfl := Option.some.inj ht'
    exact .inr (hstate next hinLine)
  · rw [List.getElem?_modify_ne _ _ hij] at ht'
    exact hothers j (fun heq => hij heq.symm) (h.waits j t' next ht' hinLine)

/-- A task takes a step that leaves the lock as it is. -/
theorem Sound.task {i : Nat} {t : Task α} {job : J} (state : TaskState α)
    (h : s.Sound T account) (ht : s.schedule.tasks[i]? = some t) (hjob : s.jobs[i]? = some job)
    (htasks : s'.schedule.tasks = s.schedule.tasks.modify i fun t => { t with state })
    (hjobs : s'.jobs = s.jobs) (hlock : s'.station.lock = s.station.lock)
    (hstation : s'.schedule.world.stations.length = s.schedule.world.stations.length)
    (hline : i ∉ s.station.lock.line) (hstate : ∀ next, state ≠ .inLine next)
    (hown : ∀ j, j ≠ i → s'.moment.own j = s.moment.own j)
    (hdrift : ∀ j, j ≠ i → s.holds j = true → Drift j s.moment s'.moment)
    (hcalm : s.station.lock.holder = none → T.calm s'.moment)
    (hstands : T.Stands (account job) i (s.holds i) s'.moment state) : s'.Sound T account := by
  have hholds : ∀ j, s'.holds j = s.holds j := by
    intro j
    rw [holds, hlock, holds]
  have hlength : s'.schedule.tasks.length = s.schedule.tasks.length := by
    rw [htasks, List.length_modify]
  refine ⟨hstation ▸ h.station, by rw [hjobs, hlength, h.jobs], places_setState h htasks,
    fun hnone => hcalm (hlock ▸ hnone), ?_, ?_, ?_, hlock ▸ h.orderly,
    fresh_setState h ht htasks hown,
    waits_setState h ht htasks (fun next heq => absurd heq (hstate next)) ?_⟩
  · apply stands_setState h ht hjob htasks hjobs (hholds i ▸ hstands)
    intro j t job hne _ _ hj
    rw [hholds]
    exact hj.move (hown j hne) (hdrift j hne)
  · intro j hj
    rw [hlength]
    exact h.holder j (hlock ▸ hj)
  · intro j hj
    rw [hlock] at hj
    exact line_setState htasks (fun heq => hline (heq ▸ hj)) (h.line j hj)
  · intro j _ hj
    rw [hlock]
    exact hj

/-! ### Steps of a task -/

theorem own_of_answered {m m' : Moment} {i : Nat} {r : Request} {a : r.Answer}
    (h : Answered i m r a m') {j : Nat} (hij : j ≠ i) : m'.own j = m.own j := by
  obtain ⟨met, hmet, rfl⟩ := h
  rw [Moment.own_note, Event.answered, if_neg (by simpa using fun heq => hij heq.symm)]
  simp [Moment.own, hmet.past]

/-- What a task does without the lock is nothing to the others. -/
theorem shift_of_answered {m m' : Moment} {i : Nat} {r : Request} {a : r.Answer}
    (h : Answered i m r a m') (hr : r.isInside = false) {j : Nat} (hij : j ≠ i) : Shift j m m' := by
  obtain ⟨met, hmet, rfl⟩ := h
  have hbeside : ∀ signal : Signal, m.signal.Raised signal → r.deed a = .other →
      met = { m with signal } → Shift j m (met.note (.answered i r a m met)) := by
    intro signal hsignal hdeed hmet
    subst hmet
    refine .beside m.now signal [_] (Nat.le_refl _) hsignal ?_
    intro e he
    rw [List.mem_singleton] at he
    subst he
    exact ⟨by simpa [Event.answered] using fun heq => hij heq.symm, by simp [Event.answered], hdeed⟩
  cases hmet with
  | shutDown =>
      exact hbeside { m.signal with isShutDown := true } ⟨fun _ => rfl, Nat.le_refl _⟩ rfl rfl
  | interrupt =>
      exact hbeside { m.signal with rounds := m.signal.rounds + 1 } ⟨id, Nat.le_succ _⟩ rfl rfl
  | lock => exact hbeside _ (.refl _) rfl rfl
  | unlock => exact hbeside _ (.refl _) rfl rfl
  | _ => simp [Request.isInside] at hr

variable {i : Nat} {t : Task α} {job : J}

/-- A request that is answered at once and leaves the lock as it is. -/
theorem Sound.answered (h : s.Sound T account) (ht : s.schedule.tasks[i]? = some t)
    (hjob : s.jobs[i]? = some job) (hline : i ∉ s.station.lock.line) {r : Request} {a : r.Answer}
    {u : Schedule α} {next : r.Answer → Work α} (htasks : u.tasks = s.schedule.tasks)
    (hlock : (u.world.station place).lock = s.station.lock)
    (hlength : u.world.stations.length = s.schedule.world.stations.length)
    (hanswered : Answered i s.moment r a (s.answered i r a u next).moment)
    (houtside : s.holds i = false → r.isInside = false)
    (habides : T.Abides i (account job) (next a) (s.holds i) (s.answered i r a u next).moment) :
    (s.answered i r a u next).Sound T account := by
  refine h.task (.ready (next a)) ht hjob ?_ rfl hlock hlength hline (by simp)
    (fun j hj => own_of_answered hanswered hj) ?_ ?_ habides
  · change u.tasks.modify i _ = _
    rw [htasks]
  · -- if another task holds the lock then this one does not
    intro j hj hholds
    refine .single (shift_of_answered hanswered (houtside ?_) hj)
    simp only [holds, decide_eq_true_eq, decide_eq_false_iff_not] at hholds ⊢
    rw [hholds]
    simpa using hj
  · intro hnone
    have hout : r.isInside = false := houtside (by simp [holds, hnone])
    refine T.calm_stable (i + 1) _ _ (shift_of_answered hanswered hout ?_) (h.calm hnone)
    omega

theorem Sound.not_inLine (h : s.Sound T account) (ht : s.schedule.tasks[i]? = some t)
    (hstate : ∀ next, t.state ≠ .inLine next) : i ∉ s.station.lock.line := by
  intro hmem
  obtain ⟨t', next, ht', hstate'⟩ := h.line i hmem
  rw [ht] at ht'
  obtain rfl := Option.some.inj ht'
  exact hstate next hstate'

/-- A task that holds the lock asks anything but to give it back or to rest. -/
theorem Sound.ask_inside (h : s.Sound T account) (ht : s.schedule.tasks[i]? = some t)
    (hjob : s.jobs[i]? = some job) {r : Request} {next : r.Answer → Work α}
    (hstate : t.state = .ready (Script.ask r next)) (hholds : s.holds i = true)
    (hinside : r.isInside = true) (hrest : r.isRest = false) :
    (s.ask i r next).Sound T account := by
  have hline := h.not_inLine ht (by simp [hstate])
  have hstands := h.stands i t job ht hjob
  rw [hstate, hholds] at hstands
  obtain ⟨-, habides⟩ := hstands
  obtain ⟨-, -, -, hnext⟩ := habides s.moment .refl
  obtain ⟨a, u, hserves⟩ := serves_inside h.station i (.inl hinside) hrest
  have hleads : r.leadsInside true = true := by
    cases r <;> simp_all [Request.leadsInside, Request.isInside]
  have hlast := hnext a _ (hserves.answered next)
  rw [hleads] at hlast
  rw [ask_of_answered hserves.serve]
  exact h.answered ht hjob hline hserves.tasks hserves.lock hserves.length (hserves.answered next)
    (by simp [hholds]) (hholds ▸ hlast)

/-- A task that does not hold the lock raises the signal. -/
theorem Sound.ask_outside (h : s.Sound T account) (ht : s.schedule.tasks[i]? = some t)
    (hjob : s.jobs[i]? = some job) {r : Request} {next : r.Answer → Work α}
    (hstate : t.state = .ready (Script.ask r next)) (hholds : s.holds i = false)
    (hr : r = .shutDown ∨ r = .interrupt) : (s.ask i r next).Sound T account := by
  have hline := h.not_inLine ht (by simp [hstate])
  have hstands := h.stands i t job ht hjob
  rw [hstate, hholds] at hstands
  obtain ⟨-, habides⟩ := hstands
  have hrest : r.isRest = false := by rcases hr with rfl | rfl <;> rfl
  have hinside : r.isInside = false := by rcases hr with rfl | rfl <;> rfl
  have hleads : r.leadsInside false = false := by rcases hr with rfl | rfl <;> rfl
  have hlock : r = .lock → T.calm s.moment := by rcases hr with rfl | rfl <;> simp
  obtain ⟨a, u, hserves⟩ := serves_inside h.station i (.inr hr) hrest
  have hlast := habides s.moment rfl hlock a _ (hserves.answered next)
  rw [hleads] at hlast
  rw [ask_of_answered hserves.serve]
  exact h.answered ht hjob hline hserves.tasks hserves.lock hserves.length (hserves.answered next)
    (fun _ => hinside) (hholds ▸ hlast)

/-- A task that holds the lock rests, or finds that it need not. -/
theorem Sound.ask_rest (h : s.Sound T account) (ht : s.schedule.tasks[i]? = some t)
    (hjob : s.jobs[i]? = some job) {millis : Nat} {ticket : Option Nat}
    {next : (Request.rest millis ticket).Answer → Work α}
    (hstate : t.state = .ready (Script.ask (.rest millis ticket) next))
    (hholds : s.holds i = true) : (s.ask i (.rest millis ticket) next).Sound T account := by
  have hline := h.not_inLine ht (by simp [hstate])
  have hstands := h.stands i t job ht hjob
  rw [hstate, hholds] at hstands
  have habides : T.Abides i (account job) (Script.ask (.rest millis ticket) next) true s.moment :=
    hstands
  obtain ⟨-, -, -, hnext⟩ := hstands.2 s.moment .refl
  have hearly : ∀ early : Bool, (early = true → s.station.signal.endedSince ticket) →
      (s.answered i (.rest millis ticket) early s.schedule next).Sound T account := by
    intro early hended
    have hanswered : Answered i s.moment (.rest millis ticket) early
        (s.answered i (.rest millis ticket) early s.schedule next).moment :=
      answered_of_met (.rest millis ticket early hended) rfl rfl rfl (List.append_nil _).symm rfl
        next
    exact h.answered ht hjob hline rfl rfl rfl hanswered (by simp [hholds])
      (hholds ▸ hnext early _ hanswered)
  by_cases hended : s.station.signal.endedSince ticket
  · rw [ask_of_answered (Schedule.serve_rest_early i place millis hended)]
    exact hearly true fun _ => hended
  · by_cases hzero : millis = 0
    · subst hzero
      rw [ask_of_answered (Schedule.serve_rest_zero i place hended)]
      exact hearly false (by simp)
    · rw [ask_of_waits (Schedule.serve_rest_waits i place hended hzero)]
      exact h.task (.resting (s.schedule.now + millis) ticket next) ht hjob rfl rfl rfl rfl hline
        (by simp) (fun _ _ => rfl) (fun _ _ _ => .refl) h.calm ⟨hholds, millis, habides⟩

/-- A rest is over. -/
theorem Sound.act_resting (h : s.Sound T account) (ht : s.schedule.tasks[i]? = some t)
    (hjob : s.jobs[i]? = some job) {deadline : Nat} {ticket : Option Nat} {next : Bool → Work α}
    (hstate : t.state = .resting deadline ticket next) {early : Bool}
    (hended : early = true → s.station.signal.endedSince ticket) :
    (s.answered i (.rest 0 ticket) early (s.schedule.dropAlarm i) next).Sound T account := by
  have hline := h.not_inLine ht (by simp [hstate])
  have hstands := h.stands i t job ht hjob
  rw [hstate] at hstands
  obtain ⟨hholds, millis, -, habides⟩ := hstands
  obtain ⟨-, -, -, hnext⟩ := habides s.moment .refl
  -- for how long a rest was meant does not show in what is noted
  have hanswered : ∀ millis, Answered i s.moment (.rest millis ticket) early
      (s.answered i (.rest 0 ticket) early (s.schedule.dropAlarm i) next).moment := by
    intro millis
    exact answered_of_met (.rest millis ticket early hended) rfl rfl rfl (List.append_nil _).symm
      rfl next
  exact h.answered ht hjob hline rfl rfl rfl (hanswered 0) (by simp [hholds])
    (hholds ▸ hnext early _ (hanswered millis))

theorem Sound.act_done (h : s.Sound T account) (ht : s.schedule.tasks[i]? = some t)
    (hjob : s.jobs[i]? = some job) {x : α} (hstate : t.state = .ready (Script.done x)) :
    ({ s with schedule := s.schedule.setState i (.finished x) } : Scene J α).Sound T account := by
  have hline := h.not_inLine ht (by simp [hstate])
  have hstands := h.stands i t job ht hjob
  rw [hstate] at hstands
  refine h.task (.finished x) ht hjob rfl rfl rfl rfl hline (by simp) (fun _ _ => rfl)
    (fun _ _ _ => .refl) h.calm hstands

/-- The lock was passed on to a task that waited for it. -/
theorem Sound.act_inLine (h : s.Sound T account) (ht : s.schedule.tasks[i]? = some t)
    (hjob : s.jobs[i]? = some job) {next : Unit → Work α} (hstate : t.state = .inLine next)
    (hholder : s.station.lock.holder = some i) :
    (s.answered i .lock () s.schedule next).Sound T account := by
  have hholds : s.holds i = true := decide_eq_true hholder
  have hstands := h.stands i t job ht hjob
  rw [hstate, hholds] at hstands
  obtain ⟨⟨-, habides⟩, hcalm⟩ := hstands
  have hanswered : Answered i s.moment .lock ()
      (s.answered i .lock () s.schedule next).moment :=
    answered_of_met .lock rfl rfl rfl (List.append_nil _).symm rfl next
  apply h.answered ht hjob (h.orderly.apart i hholder) rfl rfl rfl hanswered (by simp [hholds])
  rw [hholds]
  exact habides s.moment rfl (fun _ => hcalm rfl) () _ hanswered

/-- A task takes a step that changes the lock. -/
theorem Sound.relock (h : s.Sound T account) (state : TaskState α)
    (ht : s.schedule.tasks[i]? = some t) (hjob : s.jobs[i]? = some job)
    (htasks : s'.schedule.tasks = s.schedule.tasks.modify i fun t => { t with state })
    (hjobs : s'.jobs = s.jobs)
    (hstation : s'.schedule.world.stations.length = s.schedule.world.stations.length)
    (hown : ∀ j, j ≠ i → s'.moment.own j = s.moment.own j)
    (hcalm : s'.station.lock.holder = none → T.calm s'.moment)
    (hstands : T.Stands (account job) i (s'.holds i) s'.moment state)
    (hothers : ∀ j t job, j ≠ i → s.schedule.tasks[j]? = some t →
      T.Stands (account job) j (s.holds j) s.moment t.state →
        T.Stands (account job) j (s'.holds j) s'.moment t.state)
    (hholder : ∀ j, s'.station.lock.holder = some j → j < s.schedule.tasks.length)
    (hline : ∀ j ∈ s'.station.lock.line,
      j ≠ i ∧ j ∈ s.station.lock.line ∨ j = i ∧ ∃ next, state = .inLine next)
    (horderly : s'.station.lock.Orderly)
    (hstate : ∀ next, state = .inLine next → i ∈ s'.station.lock.line)
    (hwaits : ∀ j, j ≠ i → s.station.lock.holder = some j ∨ j ∈ s.station.lock.line →
      s'.station.lock.holder = some j ∨ j ∈ s'.station.lock.line) :
    s'.Sound T account := by
  have hlength : s'.schedule.tasks.length = s.schedule.tasks.length := by
    rw [htasks, List.length_modify]
  refine ⟨hstation ▸ h.station, by rw [hjobs, hlength, h.jobs], places_setState h htasks, hcalm,
    ?_, fun j hj => hlength ▸ hholder j hj, ?_, horderly,
    fresh_setState h ht htasks hown, waits_setState h ht htasks hstate hwaits⟩
  · apply stands_setState h ht hjob htasks hjobs hstands
    intro j t job hne ht _
    exact hothers j t job hne ht
  · intro j hj
    rcases hline j hj with ⟨hne, hold⟩ | ⟨rfl, next, rfl⟩
    · exact line_setState htasks hne (h.line j hold)
    · refine ⟨{ t with state := .inLine next }, next, ?_, rfl⟩
      rw [htasks, List.getElem?_modify_eq, ht]
      rfl

theorem serve_lock_free (h : place < s.schedule.world.stations.length) (i : Nat)
    (hfree : s.station.lock.holder = none) : s.schedule.serve i place .lock =
      .answered () (s.schedule.onWorld fun w => w.modifyLock place fun l => l.join i) := by
  have hstation := station_modifyLock h fun l => l.join i
  refine if_pos ((congrArg (fun x : Station => x.lock.holder) hstation).trans ?_)
  rw [Lock.join_of_free hfree]

theorem serve_lock_taken (h : place < s.schedule.world.stations.length) {i j : Nat}
    (htaken : s.station.lock.holder = some j) (hij : j ≠ i) : s.schedule.serve i place .lock =
      .waits .inLine (s.schedule.onWorld fun w => w.modifyLock place fun l => l.join i) := by
  apply if_neg
  rw [station_modifyLock h, Lock.join_of_taken htaken]
  change s.station.lock.holder ≠ some i
  rw [htaken]
  simpa using hij

/-- A task that finds the lock free takes it. -/
theorem Sound.took (h : s.Sound T account) {w : Work α} (ht : s.schedule.tasks[i]? = some t)
    (hjob : s.jobs[i]? = some job) (hfree : s.station.lock.holder = none)
    (htasks : s'.schedule.tasks = s.schedule.tasks.modify i fun t => { t with state := .ready w })
    (hjobs : s'.jobs = s.jobs)
    (hstation : s'.schedule.world.stations.length = s.schedule.world.stations.length)
    (hjoined : s'.station.lock = s.station.lock.join i)
    (hown : ∀ j, j ≠ i → s'.moment.own j = s.moment.own j)
    (hstands : T.Stands (account job) i true s'.moment (.ready w)) : s'.Sound T account := by
  have hlock := hjoined.trans (Lock.join_of_free hfree i)
  have hnobody : s.station.lock.line = [] := h.orderly.free hfree
  have hempty : s'.station.lock.line = [] := by
    rw [hlock]
    exact hnobody
  have horderly := h.orderly.join (i := i) (by simp [hfree]) (by simp [hnobody])
  refine h.relock (.ready w) ht hjob htasks hjobs hstation hown ?_ ?_ ?_ ?_ (by simp [hempty])
    (hjoined ▸ horderly) (by simp) (by simp [hfree, hnobody])
  · rw [hlock]
    simp
  · have hholds : s'.holds i = true := by simp [holds, hlock]
    rw [hholds]
    exact hstands
  · intro j t' job' hne _ hj
    have hbefore : s.holds j = false := by simp [holds, hfree]
    have hafter : s'.holds j = false := by simpa [holds, hlock] using fun heq => hne heq.symm
    -- nobody had the lock, so all the others are outside before and after
    rw [hbefore] at hj
    rw [hafter]
    exact hj.move (hown j hne) (by simp)
  · intro j hj
    rw [hlock] at hj
    obtain rfl := Option.some.inj hj
    exact (List.getElem?_eq_some_iff.mp ht).1

/-- A task asks for the lock while it is free. -/
theorem Sound.ask_lock_free (h : s.Sound T account) (ht : s.schedule.tasks[i]? = some t)
    (hjob : s.jobs[i]? = some job) {next : Request.lock.Answer → Work α}
    (hstate : t.state = .ready (Script.ask .lock next)) (hfree : s.station.lock.holder = none) :
    (s.ask i .lock next).Sound T account := by
  have hstation := station_modifyLock h.station fun l => l.join i
  have hstands := h.stands i t job ht hjob
  have hout : s.holds i = false := by simp [holds, hfree]
  rw [hstate, hout] at hstands
  obtain ⟨-, habides⟩ := hstands
  have hanswered := answered_of_lock (s := s) (i := i) (r := .lock) (a := ())
    (t := s.schedule.onWorld fun w => w.modifyLock place fun l => l.join i) .lock rfl rfl rfl
    hstation next
  rw [ask_of_answered (serve_lock_free h.station i hfree)]
  exact h.took ht hjob hfree rfl rfl (World.length_modifyStation _ _ _)
    (congrArg Station.lock hstation) (fun j hj => own_of_answered hanswered hj)
    (habides s.moment rfl (fun _ => h.calm hfree) () _ hanswered)

/-- A task that finds the lock taken joins the line. -/
theorem Sound.joined (h : s.Sound T account) (ht : s.schedule.tasks[i]? = some t)
    (hjob : s.jobs[i]? = some job) {j : Nat} (htaken : s.station.lock.holder = some j)
    (hij : j ≠ i) (hline : i ∉ s.station.lock.line) {next : Unit → Work α}
    (htasks : s'.schedule.tasks =
      s.schedule.tasks.modify i fun t => { t with state := .inLine next })
    (hjobs : s'.jobs = s.jobs)
    (hstation : s'.schedule.world.stations.length = s.schedule.world.stations.length)
    (hjoined : s'.station.lock = s.station.lock.join i) (hmoment : s'.moment = s.moment)
    (hstands : T.Stands (account job) i false s.moment (.inLine next)) : s'.Sound T account := by
  have hlock := hjoined.trans (Lock.join_of_taken htaken i)
  have hholds : ∀ k, s'.holds k = s.holds k := by
    intro k
    rw [holds, hlock, holds]
  have hout : s.holds i = false := by simpa [holds, htaken] using hij
  have hmem : ∀ k, k ∈ s'.station.lock.line ↔ k ∈ s.station.lock.line ∨ k = i := by
    intro k
    rw [hlock, List.mem_append, List.mem_singleton]
  have horderly := h.orderly.join (i := i) (by simpa [htaken] using hij) hline
  refine h.relock (.inLine next) ht hjob htasks hjobs hstation (fun _ _ => by rw [hmoment]) ?_ ?_
    ?_ ?_ ?_ (hjoined ▸ horderly) (fun _ _ => (hmem i).mpr (.inr rfl)) ?_
  · rw [hlock, htaken]
    simp
  · rw [hholds, hout, hmoment]
    exact hstands
  · intro k t' job' hne _ hk
    rw [hholds, hmoment]
    exact hk
  · intro k hk
    rw [hlock] at hk
    exact h.holder k hk
  · intro k hk
    rcases (hmem k).mp hk with hold | rfl
    · exact .inl ⟨fun heq => hline (heq ▸ hold), hold⟩
    · exact .inr ⟨rfl, next, rfl⟩
  · rintro k _ (hk | hk)
    · rw [hlock]
      exact .inl hk
    · exact .inr ((hmem k).mpr (.inl hk))

/-- A task asks for the lock while it is taken. -/
theorem Sound.ask_lock_taken (h : s.Sound T account) (ht : s.schedule.tasks[i]? = some t)
    (hjob : s.jobs[i]? = some job) {next : Request.lock.Answer → Work α}
    (hstate : t.state = .ready (Script.ask .lock next)) {j : Nat}
    (htaken : s.station.lock.holder = some j) (hij : j ≠ i) :
    (s.ask i .lock next).Sound T account := by
  have hstation := station_modifyLock h.station fun l => l.join i
  have hstands := h.stands i t job ht hjob
  have hout : s.holds i = false := by simpa [holds, htaken] using hij
  rw [hstate, hout] at hstands
  rw [ask_of_waits (serve_lock_taken h.station htaken hij)]
  exact h.joined ht hjob htaken hij (h.not_inLine ht (by simp [hstate])) rfl rfl
    (World.length_modifyStation _ _ _) (congrArg Station.lock hstation)
    (moment_of_lock rfl rfl hstation) ⟨hstands, by simp⟩

/-- A task passes the lock on. -/
theorem Sound.passed (h : s.Sound T account) (state : TaskState α)
    (ht : s.schedule.tasks[i]? = some t) (hjob : s.jobs[i]? = some job)
    (hholder : s.station.lock.holder = some i)
    (htasks : s'.schedule.tasks = s.schedule.tasks.modify i fun t => { t with state })
    (hjobs : s'.jobs = s.jobs)
    (hstation : s'.schedule.world.stations.length = s.schedule.world.stations.length)
    (hlock : s'.station.lock = s.station.lock.pass)
    (hstate : ∀ next, state ≠ .inLine next)
    (hown : ∀ j, j ≠ i → s'.moment.own j = s.moment.own j) (hcalm : T.calm s'.moment)
    (hstands : T.Stands (account job) i false s'.moment state) : s'.Sound T account := by
  have hmem : ∀ j, s'.station.lock.holder = some j → j ∈ s.station.lock.line :=
    fun j hj => Lock.mem_of_pass_holder (hlock ▸ hj)
  have hline := h.orderly.apart i hholder
  refine h.relock state ht hjob htasks hjobs hstation hown (fun _ => hcalm) ?_ ?_ ?_ ?_
    (hlock ▸ h.orderly.pass) (fun next heq => absurd heq (hstate next)) ?_
  · have hout : s'.holds i = false := by
      simp only [holds, decide_eq_false_iff_not]
      exact fun heq => hline (hmem i heq)
    rw [hout]
    exact hstands
  · intro j t' job' hne ht' hj
    have hout : s.holds j = false := by
      simpa [holds, hholder] using fun heq => hne heq.symm
    rw [hout] at hj
    -- whoever gets the lock now finds the moment calm; the others stay outside
    have hmoved := hj.move (hown j hne) (by simp)
    cases hnow : s'.holds j with
    | false => exact hmoved
    | true =>
        obtain ⟨t'', next, ht'', hstate⟩ := h.line j (hmem j (of_decide_eq_true hnow))
        rw [ht'] at ht''
        obtain rfl := Option.some.inj ht''
        rw [hstate] at hmoved ⊢
        exact ⟨hmoved.1, fun _ => hcalm⟩
  · intro j hj
    obtain ⟨t', -, ht', -⟩ := h.line j (hmem j hj)
    exact (List.getElem?_eq_some_iff.mp ht').1
  · intro j hj
    have hold : j ∈ s.station.lock.line := Lock.mem_of_mem_pass (hlock ▸ hj)
    exact .inl ⟨fun heq => hline (heq ▸ hold), hold⟩
  · rintro j hne (hj | hj)
    · rw [hholder] at hj
      exact absurd (Option.some.inj hj).symm hne
    · rw [hlock]
      exact Lock.waits_pass hj

theorem station_unlock (h : place < s.schedule.world.stations.length) :
    (s.schedule.unlock place).world.station place =
      { s.station with lock := s.station.lock.pass } := by
  rw [(s.schedule.unlock_eq place).1]
  exact World.station_modifyStation h _

/-- A task gives the lock back. -/
theorem Sound.ask_unlock (h : s.Sound T account) (ht : s.schedule.tasks[i]? = some t)
    (hjob : s.jobs[i]? = some job) {next : Request.unlock.Answer → Work α}
    (hstate : t.state = .ready (Script.ask .unlock next)) (hholds : s.holds i = true) :
    (s.ask i .unlock next).Sound T account := by
  have hholder : s.station.lock.holder = some i := of_decide_eq_true hholds
  obtain ⟨hworld, htasks, hnow⟩ := s.schedule.unlock_eq place
  have hstation := station_unlock h.station
  have hstands := h.stands i t job ht hjob
  rw [hstate, hholds] at hstands
  obtain ⟨-, habides⟩ := hstands
  obtain ⟨-, -, hcalm, hnext⟩ := habides s.moment .refl
  have hbroker : (s.schedule.unlock place).world.broker = s.schedule.world.broker := by
    rw [hworld]
    rfl
  have hanswered := answered_of_lock (s := s) (i := i) (r := .unlock) (a := ())
    (t := s.schedule.unlock place) .unlock rfl hbroker hnow hstation next
  have hserve : s.schedule.serve i place .unlock = .answered () (s.schedule.unlock place) := rfl
  rw [ask_of_answered hserve]
  have hout := hnext () _ hanswered
  refine h.passed (.ready (next ())) ht hjob hholder ?_ rfl ?_ ?_ (by simp)
    (fun j hj => own_of_answered hanswered hj) ?_ hout
  · change (s.schedule.unlock place).tasks.modify i _ = _
    rw [htasks]
  · change (s.schedule.unlock place).world.stations.length = _
    rw [hworld]
    exact World.length_modifyStation _ _ _
  · exact congrArg Station.lock hstation
  · exact T.calm_stable (i + 1) _ _ (shift_of_answered hanswered rfl (by omega)) (hcalm rfl)

/-- Whoever is stopped inside the lock is at rest, or was about to go on. -/
theorem Sound.calm_of_mayStop (h : s.Sound T account) (ht : s.schedule.tasks[i]? = some t)
    (hjob : s.jobs[i]? = some job) (hmay : s.mayStop i = true)
    (hholder : s.station.lock.holder = some i) : T.calm s.moment := by
  have hstands := h.stands i t job ht hjob
  rw [holds, decide_eq_true hholder] at hstands
  rw [mayStop, ht] at hmay
  cases hstate : t.state with
  | ready w => simp [hstate, hholder] at hmay
  | resting deadline ticket next =>
      rw [hstate] at hstands
      obtain ⟨-, millis, -, habides⟩ := hstands
      exact ((habides s.moment .refl).2.1 rfl).1
  | inLine next =>
      rw [hstate] at hstands
      exact hstands.2 rfl
  | finished x => simp [hstate] at hmay
  | cancelled => simp [hstate] at hmay

/-- A task that does not have the lock is stopped, and leaves the line. -/
theorem Sound.left (h : s.Sound T account) (ht : s.schedule.tasks[i]? = some t)
    (hjob : s.jobs[i]? = some job) (hholder : s.station.lock.holder ≠ some i)
    (htasks : s'.schedule.tasks =
      s.schedule.tasks.modify i fun t => { t with state := .cancelled })
    (hjobs : s'.jobs = s.jobs)
    (hstation : s'.schedule.world.stations.length = s.schedule.world.stations.length)
    (hlock : s'.station.lock = s.station.lock.leave i) (hmoment : s'.moment = s.moment) :
    s'.Sound T account := by
  have hholds : ∀ j, s'.holds j = s.holds j := by
    intro j
    rw [holds, hlock]
    rfl
  have hmem : ∀ j, j ∈ s'.station.lock.line ↔ j ∈ s.station.lock.line ∧ j ≠ i := by
    intro j
    rw [hlock, Lock.mem_leave]
  refine h.relock .cancelled ht hjob htasks hjobs hstation (fun _ _ => by rw [hmoment]) ?_ ?_ ?_
    ?_ ?_ (hlock ▸ h.orderly.leave i) (by simp) ?_
  · intro hnone
    rw [hmoment]
    rw [hlock] at hnone
    exact h.calm hnone
  · rw [hholds]
    exact decide_eq_false hholder
  · intro j t' job' _ _ hj
    rw [hholds, hmoment]
    exact hj
  · intro j hj
    rw [hlock] at hj
    exact h.holder j hj
  · intro j hj
    obtain ⟨hold, hne⟩ := (hmem j).mp hj
    exact .inl ⟨hne, hold⟩
  · rintro j hne (hj | hj)
    · rw [hlock]
      exact .inl hj
    · exact .inr ((hmem j).mpr ⟨hj, hne⟩)

/-- A task is stopped where it waits. -/
theorem Sound.cancel (h : s.Sound T account) (ht : s.schedule.tasks[i]? = some t)
    (hjob : s.jobs[i]? = some job) (hmay : s.mayStop i = true) :
    ({ s with schedule := s.schedule.cancel i } : Scene J α).Sound T account := by
  have hplace : t.place = place := h.places t (List.mem_of_getElem? ht)
  obtain ⟨htasks, hnow, hworld⟩ := Schedule.cancel_eq ht
  rw [hplace] at hworld
  have hlength :
      (s.schedule.cancel i).world.stations.length = s.schedule.world.stations.length := by
    rw [hworld]
    exact World.length_modifyStation _ _ _
  have hstation : (s.schedule.cancel i).world.station place = { s.station with
      lock := if s.station.lock.holder = some i then s.station.lock.pass
        else s.station.lock.leave i } := by
    rw [hworld]
    exact World.station_modifyStation h.station _
  have hbroker : (s.schedule.cancel i).world.broker = s.schedule.world.broker := by
    rw [hworld]
    rfl
  have hmoment := moment_of_lock hbroker hnow hstation
  have hlock := congrArg Station.lock hstation
  -- a task that has the lock passes it on, and any other can only leave the line
  by_cases hholder : s.station.lock.holder = some i
  · simp only [if_pos hholder] at hlock
    have hcalm := h.calm_of_mayStop ht hjob hmay hholder
    exact h.passed .cancelled ht hjob hholder htasks rfl hlength hlock (by simp)
      (fun _ _ => by rw [hmoment]) (hmoment ▸ hcalm) rfl
  · simp only [if_neg hholder] at hlock
    exact h.left ht hjob hholder htasks rfl hlength hlock hmoment

/-- A task asks a request. -/
theorem Sound.ask (h : s.Sound T account) (ht : s.schedule.tasks[i]? = some t)
    (hjob : s.jobs[i]? = some job) {r : Request} {next : r.Answer → Work α}
    (hstate : t.state = .ready (Script.ask r next)) : (s.ask i r next).Sound T account := by
  have hstands := h.stands i t job ht hjob
  rw [hstate] at hstands
  cases hholds : s.holds i with
  | true =>
      rw [hholds] at hstands
      obtain ⟨hallowed, -⟩ := hstands
      cases r with
      | rest millis ticket => exact h.ask_rest ht hjob hstate hholds
      | unlock => exact h.ask_unlock ht hjob hstate hholds
      | _ =>
          first
            | exact h.ask_inside ht hjob hstate hholds rfl rfl
            | exact absurd hallowed (by simp [Request.isAllowed, Request.isInside])
  | false =>
      rw [hholds] at hstands
      obtain ⟨hallowed, -⟩ := hstands
      cases r with
      | lock =>
          cases hholder : s.station.lock.holder with
          | none => exact h.ask_lock_free ht hjob hstate hholder
          | some j =>
              apply h.ask_lock_taken ht hjob hstate hholder
              intro heq
              simp [holds, hholder, heq] at hholds
      | shutDown => exact h.ask_outside ht hjob hstate hholds (.inl rfl)
      | interrupt => exact h.ask_outside ht hjob hstate hholds (.inr rfl)
      | _ => exact absurd hallowed (by simp [Request.isAllowed])

/-- A task takes one step. -/
theorem Sound.act (h : s.Sound T account) (i : Nat) : (s.act i).Sound T account := by
  unfold Scene.act
  cases ht : s.schedule.tasks[i]? with
  | none => exact h
  | some t =>
      obtain ⟨job, hjob⟩ := h.job ht
      simp only [Option.map_some]
      split
      next x hstate => exact h.act_done ht hjob (Option.some.inj hstate)
      next r next hstate => exact h.ask ht hjob (Option.some.inj hstate)
      next deadline ticket next hstate =>
        have hstate := Option.some.inj hstate
        split
        next hended => exact h.act_resting ht hjob hstate fun _ => hended
        next =>
          split
          next => exact h.act_resting ht hjob hstate (by simp)
          next => exact h
      next next hstate =>
        split
        next hholder => exact h.act_inLine ht hjob (Option.some.inj hstate) hholder
        next => exact h
      next => exact h

/-- A task is begun. -/
theorem Sound.begin (h : s.Sound T account) {work : Work α}
    (hwork : ∀ i m, m.own i = [] → T.Abides i (account job) work false m) :
    ({ s with schedule := s.schedule.add place work, jobs := s.jobs ++ [job] } :
      Scene J α).Sound T account where
  station := h.station
  jobs := by simp [Schedule.add, h.jobs]
  places t ht := by
    rcases List.mem_append.mp ht with hold | hnew
    · exact h.places t hold
    · rw [List.mem_singleton.mp hnew]
  calm := h.calm
  stands j t' job' ht' hjob' := by
    simp only [Schedule.add] at ht'
    rcases Nat.lt_or_ge j s.schedule.tasks.length with hlt | hge
    · rw [List.getElem?_append_left hlt] at ht'
      rw [List.getElem?_append_left (h.jobs ▸ hlt)] at hjob'
      exact h.stands j t' job' ht' hjob'
    · rw [List.getElem?_append_right hge, List.getElem?_singleton] at ht'
      rw [List.getElem?_append_right (h.jobs ▸ hge), List.getElem?_singleton] at hjob'
      obtain ⟨-, ht'⟩ := Option.ite_none_right_eq_some.mp ht'
      obtain rfl := Option.some.inj ht'
      obtain ⟨-, hjob⟩ := Option.ite_none_right_eq_some.mp hjob'
      obtain rfl := Option.some.inj hjob
      -- the new task has no past, and cannot have the lock yet
      have hout : s.holds j = false := by
        apply decide_eq_false
        intro hholder
        exact absurd (h.holder j hholder) (by omega)
      change T.Stands (account job) j (s.holds j) s.moment (.ready work)
      rw [hout]
      exact hwork j s.moment (h.fresh j hge)
  holder j hholder := by
    have := h.holder j hholder
    simp only [Schedule.add, List.length_append]
    omega
  line j hj := by
    obtain ⟨t, next, ht, hstate⟩ := h.line j hj
    refine ⟨t, next, ?_, hstate⟩
    simp only [Schedule.add]
    rw [List.getElem?_append_left (List.getElem?_eq_some_iff.mp ht).1, ht]
  orderly := h.orderly
  fresh j hle := by
    apply h.fresh j
    simp only [Schedule.add, List.length_append] at hle
    omega
  waits j t' next ht' hstate := by
    simp only [Schedule.add] at ht'
    rcases Nat.lt_or_ge j s.schedule.tasks.length with hlt | hge
    · rw [List.getElem?_append_left hlt] at ht'
      exact h.waits j t' next ht' hstate
    · rw [List.getElem?_append_right hge, List.getElem?_singleton] at ht'
      obtain ⟨-, ht'⟩ := Option.ite_none_right_eq_some.mp ht'
      obtain rfl := Option.some.inj ht'
      simp at hstate

/-- The steps of others. -/
theorem Sound.beside_step (h : s.Sound T account) {u : Schedule α} {now : Nat} (signal : Signal)
    (htasks : u.tasks = s.schedule.tasks)
    (hlength : u.world.stations.length = s.schedule.world.stations.length)
    (hbroker : u.world.broker = s.schedule.world.broker) (hnow : u.now = now)
    (hstation : u.world.station place = { s.station with signal })
    (hlater : s.schedule.now ≤ now) (hraised : s.station.signal.Raised signal) :
    ({ s with schedule := u } : Scene J α).Sound T account := by
  have hstation' : ({ s with schedule := u } : Scene J α).station = { s.station with signal } :=
    hstation
  have hmoment : ({ s with schedule := u } : Scene J α).moment =
      { s.moment with now, signal, past := s.past ++ [] } := by
    simp only [moment, groundOf, hstation', hbroker, hnow, hstation, List.append_nil]
    rfl
  refine h.beside htasks rfl (by rw [hstation']) hlength fun i => ?_
  rw [hmoment]
  exact .single (.beside now signal [] hlater hraised (by simp))

/-- What is sound stays sound, whatever is chosen. -/
theorem Sound.step (h : s.Sound T account) {work : J → Work α}
    (hwork : ∀ job i m, m.own i = [] → T.Abides i (account job) (work job) false m)
    (c : Choice J) : (s.step work c).Sound T account := by
  cases c with
  | begin job => exact h.begin (hwork job)
  | act i => exact h.act i
  | cancel i =>
      rcases s.step_cancel work i with hsame | ⟨t, ht, hmay, hstep⟩
      · rw [hsame]
        exact h
      · obtain ⟨job, hjob⟩ := h.job ht
        rw [hstep]
        exact h.cancel ht hjob hmay
  | operate o =>
      simp only [Scene.step]
      split
      next huses =>
        refine h.beside rfl rfl rfl rfl fun i => ?_
        exact .single (.operated (m := s.moment) o huses)
      next => exact h
  | pass millis =>
      exact h.beside_step s.station.signal rfl rfl rfl rfl rfl (Nat.le_add_right _ _) (.refl _)
  | bind bindings =>
      exact h.beside_step s.station.signal rfl rfl rfl rfl rfl (Nat.le_refl _) (.refl _)
  | interrupt =>
      obtain ⟨hworld, htasks, hnow⟩ := s.schedule.interrupt_eq place
      refine h.beside_step _ htasks ?_ ?_ hnow (station_interrupt h.station) (Nat.le_refl _)
        ⟨id, Nat.le_succ _⟩
      · rw [hworld]
        exact World.length_modifyStation _ _ _
      · rw [hworld]
        rfl
  | shutDown =>
      obtain ⟨hworld, htasks, hnow⟩ := s.schedule.shutDown_eq place
      refine h.beside_step _ htasks ?_ ?_ hnow (station_shutDown h.station) (Nat.le_refl _)
        ⟨fun _ => rfl, Nat.le_succ _⟩
      · rw [hworld]
        exact (World.length_modifyStation _ _ _).trans (World.length_modifyStation _ _ _)
      · rw [hworld]
        rfl

theorem Sound.run (h : s.Sound T account) {work : J → Work α}
    (hwork : ∀ job i m, m.own i = [] → T.Abides i (account job) (work job) false m)
    (choices : List (Choice J)) : (s.run work choices).Sound T account :=
  run_of_step (fun _ c h => h.step hwork c) h choices

/-- A scene at which nothing was begun yet. -/
theorem sound_empty (h : T.calm ({} : Scene J α).moment) : ({} : Scene J α).Sound T account where
  station := Nat.zero_lt_one
  jobs := rfl
  places := by simp
  calm _ := h
  stands := by simp
  holder := by simp [station, World.station, place]
  line := by simp [station, World.station, place]
  orderly := Lock.orderly_new
  fresh _ _ := rfl
  waits := by simp

/-- When all tasks are over nobody holds the lock. -/
theorem Sound.nobody (h : s.Sound T account) (hidle : s.isIdle = true) :
    s.station.lock.holder = none := by
  rw [Option.eq_none_iff_forall_ne_some]
  intro i hholder
  obtain ⟨t, ht⟩ : ∃ t, s.schedule.tasks[i]? = some t :=
    ⟨_, List.getElem?_eq_getElem (h.holder i hholder)⟩
  obtain ⟨job, hjob⟩ := h.job ht
  have hstands := h.stands i t job ht hjob
  have hstate := List.all_eq_true.mp hidle t (List.mem_of_getElem? ht)
  rw [holds, decide_eq_true hholder] at hstands
  cases hcase : t.state with
  | finished x =>
      rw [hcase] at hstands
      exact absurd hstands.1 (by simp)
  | cancelled =>
      rw [hcase] at hstands
      exact absurd hstands (by simp [Terms.Stands])
  | _ => simp [hcase] at hstate

/-- When all tasks are over others may begin on other terms. -/
theorem Sound.renew (h : s.Sound T account) (hidle : s.isIdle = true) {T' : Terms}
    (hcalm : T'.calm s.moment) : s.Sound T' account := by
  refine ⟨h.station, h.jobs, h.places, fun _ => hcalm, ?_, h.holder, h.line, h.orderly,
    h.fresh, h.waits⟩
  -- how a task stands that is over has nothing to do with the terms
  intro i t job ht hjob
  have hstands := h.stands i t job ht hjob
  have hstate := List.all_eq_true.mp hidle t (List.mem_of_getElem? ht)
  cases hcase : t.state with
  | finished x =>
      rw [hcase] at hstands
      exact hstands
  | cancelled =>
      rw [hcase] at hstands
      exact hstands
  | _ => simp [hcase] at hstate

/-- What whoever finished has done. -/
theorem Sound.accounted (h : s.Sound T account) {i : Nat} {t : Task α} {job : J} {x : α}
    (ht : s.schedule.tasks[i]? = some t) (hjob : s.jobs[i]? = some job)
    (hstate : t.state = .finished x) : account job x (s.moment.own i) := by
  have hstands := h.stands i t job ht hjob
  rw [hstate] at hstands
  exact hstands.2

/-- What whoever rests has done so far. -/
theorem Sound.resting (h : s.Sound T account) {i : Nat} {t : Task α} {deadline : Nat}
    {ticket : Option Nat} {next : Bool → Work α} (ht : s.schedule.tasks[i]? = some t)
    (hstate : t.state = .resting deadline ticket next) : T.resting (s.moment.own i) := by
  obtain ⟨job, hjob⟩ := h.job ht
  have hstands := h.stands i t job ht hjob
  rw [hstate] at hstands
  obtain ⟨-, millis, -, habides⟩ := hstands
  exact ((habides s.moment .refl).2.1 rfl).2

end Scene

end Sluice
