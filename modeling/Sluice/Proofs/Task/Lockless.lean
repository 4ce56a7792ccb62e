import Sluice.Proofs.Task.Shutdown

/-! # Tasks that do without the lock

A task that has nothing to do with the lock of its station waits for nothing but the end of a rest.
Every step of such a task is an answer, the beginning or the end of a rest, or its return, and the
scenes in which all tasks are of this kind stay so, whatever is chosen.
-/

namespace Sluice

/-- Whatever is answered, the lock is not asked for and not given back. -/
def Agreement.lockless : Agreement where
  may r := r.isInside = true ∨ r = .shutDown ∨ r = .interrupt
  answers _ _ := True

/-- Whether a choice raises the signal. -/
def Choice.isSignal {J : Type} : Choice J → Bool
  | .interrupt => true
  | .shutDown => true
  | _ => false

namespace Work

variable {α β : Type} {w : Work α}

/-- Work that has nothing to do with the lock. -/
abbrev Lockless (w : Work α) : Prop := w.Honours .lockless fun _ => True

theorem Lockless.bind {f : α → Work β} (h : w.Lockless) (hf : ∀ x, (f x).Lockless) :
    (w >>= f).Lockless :=
  Honours.bind h fun x _ => hf x

end Work

namespace Scene

variable {J α : Type} {work : J → Work α} {s : Scene J α} {i : Nat}

/-- Whether a task rests. -/
def rests (s : Scene J α) (i : Nat) : Bool :=
  match s.state? i with
  | some (.resting _ _ _) => true
  | _ => false

/-- No task has anything to do with the lock. -/
structure Lockless (s : Scene J α) : Prop extends s.Placed where
  asks : ∀ i state, s.state? i = some state → state.Lifts Work.Lockless

theorem lockless_empty : ({} : Scene J α).Lockless where
  toPlaced := placed_empty
  asks i state hstate := by simp [state?] at hstate

/-- Nobody waits for the lock. -/
theorem Lockless.not_inLine (h : s.Lockless) {next : Unit → Work α} :
    s.state? i ≠ some (.inLine next) := by
  intro hstate
  have hlock : (Agreement.lockless).may .lock := (h.asks i _ hstate).1
  simp [Agreement.lockless, Request.isInside] at hlock

theorem Lockless.acts (h : s.Lockless) (i : Nat) : s.Acts i (s.act i) := by
  cases hstate : s.state? i with
  | none => exact .stays (by simp [canAct, hstate]) (act_eq_self (by simp [hstate]))
  | some state =>
      cases state with
      | ready w =>
          cases w with
          | done x => exact acts_done hstate
          | ask r next =>
              have hmay : (Agreement.lockless).may r := (h.asks i _ hstate).1
              cases hrest : r.isRest with
              | true =>
                  cases r with
                  | rest millis ticket => exact acts_rest hstate
                  | _ => simp [Request.isRest] at hrest
              | false => exact acts_inside h.station hmay hrest hstate
      | resting deadline ticket next => exact acts_resting hstate
      | inLine next => exact absurd hstate h.not_inLine
      | finished x => exact .stays (by simp [canAct, hstate]) (act_eq_self (by simp [hstate]))
      | cancelled => exact .stays (by simp [canAct, hstate]) (act_eq_self (by simp [hstate]))

theorem Lockless.regular (h : s.Lockless) : s.Regular where
  toPlaced := h.toPlaced
  acts := h.acts

theorem Lockless.act (h : s.Lockless) (i : Nat) : (s.act i).Lockless where
  toPlaced := h.regular.placed_act i
  asks j state hstate := by
    by_cases hij : j = i
    · subst hij
      exact lifts_act h.regular (fun _ _ a _ hasks _ => hasks.2 a trivial) (h.asks j) state hstate
    · exact h.asks j state (others_act h.regular hij ▸ hstate)

/-- Whatever is chosen, nobody has anything to do with the lock. -/
theorem Lockless.step (h : s.Lockless) (hwork : ∀ job, (work job).Lockless) (c : Choice J) :
    (s.step work c).Lockless := by
  by_cases hc : ∃ i, c = .act i
  · obtain ⟨i, rfl⟩ := hc
    exact h.act i
  refine ⟨h.regular.placed_step work c, fun j state hstate => ?_⟩
  rcases state?_step h.regular (fun heq => hc ⟨j, heq⟩) hstate with
    hsame | ⟨rfl, -⟩ | ⟨job, -, -, rfl⟩
  · exact h.asks j state hsame
  · trivial
  · exact hwork job

/-- Nobody can go on and on without time passing. -/
theorem Lockless.acc_onward (h : s.Lockless) : Acc Onward s :=
  acc_onward_of (fun _ h => h.regular) (fun _ i h => h.act i) h

theorem Lockless.leads_still (work : J → Work α) (h : s.Lockless) :
    ∃ turns : List Nat, (s.run work (turns.map .act)).isStill = true :=
  leads_still_of (fun _ h => h.regular) (fun _ i h => h.act i) work h

end Scene

end Sluice
