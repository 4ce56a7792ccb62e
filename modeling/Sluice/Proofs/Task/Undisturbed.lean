import Sluice.Proofs.Task.Turns

/-! # Work in one turn

A task that finds the lock free and does not rest carries its script out in one turn. What comes of
it is found by going through the script: an assertion about the end is traced back, request by
request, to one about the beginning.
-/

namespace Sluice

namespace Schedule

variable {α β γ : Type} {task place : Nat} {s s' : Schedule α}

def withBroker (s : Schedule α) (b : Broker) : Schedule α :=
  s.onWorld fun w => { w with broker := b }

def withManager (s : Schedule α) (place : Nat) (m : Manager) : Schedule α :=
  s.onWorld fun w => w.modifyStation place fun t => { t with manager := m }

/-- A task has asked for the lock of a station. -/
def withLock (s : Schedule α) (task place : Nat) : Schedule α :=
  s.onWorld fun w => w.modifyLock place fun l => l.join task

/-- A task carries a script out without having to wait, and the result and the schedule that it
leaves are as asserted. -/
def Attains (task place : Nat) (Q : β → Schedule α → Prop) : Work β → Schedule α → Prop
  | .done x, s => Q x s
  | Script.ask r next, s =>
      ∃ a s', s.serve task place r = .answered a s' ∧ Attains task place Q (next a) s'

variable {Q Q' : β → Schedule α → Prop}

theorem Attains.mono {w : Work β} (h : Attains task place Q w s)
    (hpost : ∀ x s', Q x s' → Q' x s') : Attains task place Q' w s := by
  induction w generalizing s with
  | done x => exact hpost x s h
  | ask r next ih =>
      obtain ⟨a, s', hserve, hnext⟩ := h
      exact ⟨a, s', hserve, ih a hnext⟩

theorem Attains.bind {w : Work γ} {f : γ → Work β}
    (h : Attains task place (fun x s' => Attains task place Q (f x) s') w s) :
    Attains task place Q (w >>= f) s := by
  induction w generalizing s with
  | done x => exact h
  | ask r next ih =>
      obtain ⟨a, s', hserve, hnext⟩ := h
      exact ⟨a, s', hserve, ih a hnext⟩

/-! ### Requests -/

theorem attains_lookup {Q : Except NamingError Entry → Schedule α → Prop} {name : String}
    {properties : Properties} (h : Q (s.world.bindings.resolve name) s) :
    Attains task place Q (Work.lookup name properties) s :=
  ⟨_, s, rfl, h⟩

theorem attains_call {c : Call} {Q : c.Reply → Schedule α → Prop} {reply : c.Reply} {b : Broker}
    (hperform : s.world.broker.perform s.now c = (reply, b)) (h : Q reply (s.withBroker b)) :
    Attains task place Q (Work.call c) s := by
  refine ⟨reply, s.withBroker b, ?_, h⟩
  simp only [serve, World.call, hperform]
  rfl

theorem attains_manager {Q : Manager → Schedule α → Prop}
    (h : Q (s.world.station place).manager s) : Attains task place Q Work.manager s :=
  ⟨_, s, rfl, h⟩

theorem attains_keep {Q : Unit → Schedule α → Prop} {m : Manager}
    (h : Q () (s.withManager place m)) : Attains task place Q (Work.keep m) s :=
  ⟨(), _, rfl, h⟩

/-- Whoever finds the lock free gets it at once, and gives it back. -/
theorem attains_locked {w : Work β} (hplace : place < s.world.stations.length)
    (hfree : (s.world.station place).lock.holder = none)
    (h : Attains task place (fun x s' => Q x (s'.unlock place)) w (s.withLock task place)) :
    Attains task place Q (Work.locked w) s := by
  have hholder : ((s.withLock task place).world.station place).lock.holder = some task := by
    simp only [withLock, onWorld, World.modifyLock, World.station_modifyStation hplace, Lock.join,
      hfree]
  have hreturned : Attains task place
      (fun x s' => Attains task place Q (Work.ask .unlock >>= fun _ => pure x) s') w
      (s.withLock task place) :=
    h.mono fun x s' hx => ⟨(), _, rfl, hx⟩
  exact ⟨(), _, if_pos hholder, hreturned.bind⟩

/-! ### A turn -/

theorem tasks_of_answered {r : Request} {a : r.Answer}
    (h : s.serve task place r = .answered a s') : s'.tasks = s.tasks := by
  have halike := serve_alike (s := s) (t := s) rfl rfl task place r
  generalize hserved : s.serve task place r = served at halike h
  subst h
  cases halike with
  | answered a hworld hnow htasks htasks' => exact htasks

/-- What is attained comes of one turn. -/
theorem carryOn_of_attains {Q : α → Schedule α → Prop} {w : Work α}
    (h : Attains task place Q w s) :
    ∃ x s', Q x s' ∧ s'.tasks = s.tasks ∧
      carryOn task place w s = s'.setState task (.finished x) := by
  induction w generalizing s with
  | done x => exact ⟨x, s, h, rfl, rfl⟩
  | ask r next ih =>
      obtain ⟨a, s₁, hserve, hnext⟩ := h
      obtain ⟨x, s', hQ, htasks, hcarried⟩ := ih a hnext
      refine ⟨x, s', hQ, htasks.trans (tasks_of_answered hserve), ?_⟩
      rw [carryOn, hserve]
      exact hcarried

/-- The schedule in which a script gets its turn in the foreground. -/
def withForeground (s : Schedule α) (place : Nat) (w : Work α) : Schedule α :=
  { s.add place w with foreground := some s.tasks.length, foregroundReady := false }

theorem turn_withForeground (s : Schedule α) (place : Nat) (w : Work α) :
    (s.withForeground place w).turn s.tasks.length =
      carryOn s.tasks.length place w (s.withForeground place w) := by
  have hstate : (s.withForeground place w).tasks[s.tasks.length]? = some ⟨place, .ready w⟩ := by
    simp [withForeground, add]
  rw [turn, hstate]

theorem state?_setState {i : Nat} (hi : i < s.tasks.length) (state : TaskState α) :
    ((s.setState i state).tasks[i]?).map Task.state = some state := by
  simp [setState, hi]

/-- A script that is carried out in the foreground attains there what it attains in one turn. -/
theorem perform_of_attains {Q : α → Schedule α → Prop} {w : Work α} {fuel : Nat} (hfuel : 0 < fuel)
    (h : Attains s.tasks.length place Q w (s.withForeground place w)) :
    ∃ x s', Q x s' ∧ (s.perform fuel place w none).1 = some x ∧
      (s.perform fuel place w none).2.world = s'.world := by
  obtain ⟨rest, rfl⟩ := Nat.exists_eq_add_one_of_ne_zero (Nat.ne_of_gt hfuel)
  obtain ⟨x, s', hQ, htasks, hcarried⟩ := carryOn_of_attains h
  have hlength : s.tasks.length < s'.tasks.length := by
    rw [htasks]
    simp [withForeground, add]
  have hstate := state?_setState hlength (.finished x)
  have hover : (s'.setState s.tasks.length (.finished x)).isOver s.tasks.length = true := by
    rw [isOver, hstate]
  have hrun : runUntil s.tasks.length none (rest + 1)
      { s.add place w with foreground := some s.tasks.length, foregroundReady := true } =
        s'.setState s.tasks.length (.finished x) := by
    have hturn := (s.turn_withForeground place w).trans hcarried
    rw [withForeground] at hturn
    simp only [runUntil, if_true, hturn, hover]
  have hperform : s.perform (rest + 1) place w none =
      ((s'.setState s.tasks.length (.finished x)).result? s.tasks.length,
        { s'.setState s.tasks.length (.finished x) with
          foreground := none, foregroundReady := false }) := by
    rw [← hrun]
    rfl
  refine ⟨x, s', hQ, ?_, ?_⟩
  · rw [hperform, result?, hstate]
  · rw [hperform]
    rfl

end Schedule

end Sluice
