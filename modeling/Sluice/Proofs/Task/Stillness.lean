import Mathlib.Logic.Hydra
import Sluice.Proofs.Task.Calls

/-! # When nobody can go on

A task can go on if it does not wait, or if what it waits for has come: its rest is over or was
ended, or it was given the lock. Each time somebody goes on a script gets shorter, so after finitely
many steps nobody can, unless something else happens or time passes. What every script promises as
long as it gets the answers that can be given is kept in every scene that follows.
-/

namespace Sluice

/-- Whether time stands still and nobody is stopped. -/
def Choice.isPrompt {J : Type} : Choice J → Bool
  | .pass _ => false
  | .cancel _ => false
  | _ => true

/-- What every state of a task keeps of a promise that a script makes. Nobody comes to a rest that
takes no time. -/
def TaskState.Lifts {α : Type} (F : Work α → Prop) : TaskState α → Prop
  | .ready w => F w
  | .resting _ ticket next => ∃ millis, millis ≠ 0 ∧ F (Script.ask (.rest millis ticket) next)
  | .inLine next => F (Script.ask .lock next)
  | .finished x => F (.done x)
  | .cancelled => True

theorem TaskState.Lifts.mono {α : Type} {F F' : Work α → Prop} {state : TaskState α}
    (h : state.Lifts F) (hF : ∀ w, F w → F' w) : state.Lifts F' := by
  cases state with
  | ready w => exact hF _ h
  | resting deadline ticket next => exact h.imp fun _ => And.imp_right (hF _)
  | inLine next => exact hF _ h
  | finished x => exact hF _ h
  | cancelled => trivial

theorem TaskState.lifts_of_forall {α : Type} {F : Work α → Prop} (hF : ∀ w, F w)
    (state : TaskState α) : state.Lifts F := by
  cases state with
  | ready w => exact hF _
  | resting deadline ticket next => exact ⟨1, Nat.one_ne_zero, hF _⟩
  | inLine next => exact hF _
  | finished x => exact hF _
  | cancelled => trivial

/-- How a task may stand when it has gone on. -/
inductive TaskState.Shrinks {α : Type} : TaskState α → TaskState α → Prop
  | returned (x : α) : Shrinks (.finished x) (.ready (.done x))
  | answered {r : Request} (next : r.Answer → Work α) (a : r.Answer) :
      Shrinks (.ready (next a)) (.ready (Script.ask r next))
  | rests (deadline millis : Nat) (ticket : Option Nat) (next : Bool → Work α) :
      Shrinks (.resting deadline ticket next) (.ready (Script.ask (.rest millis ticket) next))
  | queues (next : Unit → Work α) : Shrinks (.inLine next) (.ready (Script.ask .lock next))
  | wakes (deadline : Nat) (ticket : Option Nat) (next : Bool → Work α) (early : Bool) :
      Shrinks (.ready (next early)) (.resting deadline ticket next)
  | granted (next : Unit → Work α) : Shrinks (.ready (next ())) (.inLine next)

namespace TaskState

variable {α : Type}

theorem acc_finished (x : α) : Acc Shrinks (TaskState.finished x) := ⟨_, fun _ h => nomatch h⟩

theorem acc_resting {deadline : Nat} {ticket : Option Nat} {next : Bool → Work α}
    (h : ∀ early, Acc Shrinks (TaskState.ready (next early))) :
    Acc Shrinks (TaskState.resting deadline ticket next) := by
  refine ⟨_, fun state hstate => ?_⟩
  cases hstate with
  | wakes deadline ticket next early => exact h early

theorem acc_inLine {next : Unit → Work α} (h : Acc Shrinks (TaskState.ready (next ()))) :
    Acc Shrinks (TaskState.inLine next) := by
  refine ⟨_, fun state hstate => ?_⟩
  cases hstate with
  | granted next => exact h

/-- A script is finite, and so is whatever becomes of the task that carries it out. -/
theorem acc_ready (w : Work α) : Acc Shrinks (TaskState.ready w) := by
  induction w with
  | done x =>
      refine ⟨_, fun state hstate => ?_⟩
      cases hstate with
      | returned x => exact acc_finished x
  | ask r next ih =>
      refine ⟨_, fun state hstate => ?_⟩
      cases hstate with
      | answered next a => exact ih a
      | rests deadline millis ticket next => exact acc_resting ih
      | queues next => exact acc_inLine (ih ())

theorem wellFounded_shrinks : WellFounded (Shrinks (α := α)) := by
  refine ⟨fun state => ?_⟩
  cases state with
  | ready w => exact acc_ready w
  | resting deadline ticket next => exact acc_resting fun early => acc_ready _
  | inLine next => exact acc_inLine (acc_ready _)
  | finished x => exact acc_finished x
  | cancelled => exact ⟨_, fun _ h => nomatch h⟩

end TaskState

namespace Scene

variable {J α : Type} {T : Terms} {account : J → α → List Event → Prop} {work : J → Work α}
variable {s s' : Scene J α} {i j : Nat}

/-- Nobody can go on, unless something else happens or time passes. -/
def isStill (s : Scene J α) : Bool :=
  (List.range s.schedule.tasks.length).all fun i => !s.canAct i

theorem canAct_of_still (h : s.isStill = true) (i : Nat) : s.canAct i = false := by
  rcases Nat.lt_or_ge i s.schedule.tasks.length with hlt | hge
  · simpa using List.all_eq_true.mp h i (List.mem_range.mpr hlt)
  · rw [canAct, state?, List.getElem?_eq_none hge]
    rfl

/-! ### Promises of scripts -/

/-- Every task keeps what its script has promised. -/
def Follows (F : Nat → J → Work α → Prop) (s : Scene J α) : Prop :=
  ∀ i state job, s.state? i = some state → s.jobs[i]? = some job → state.Lifts (F i job)

/-- Whoever moves has a promise kept, or asks as promised and is answered as things are. -/
theorem promise_act (hregular : s.Regular) {F : Work α → Prop}
    (h : ∀ state, s.state? i = some state → state.Lifts F) :
    ((s.act i).moment = s.moment ∧
        ∀ state, (s.act i).state? i = some state → state.Lifts F) ∨
      ∃ (r : Request) (next : r.Answer → Work α) (a : r.Answer), s.goesOn i = true ∧
        F (Script.ask r next) ∧ s.Gives i r a ∧ Answered i s.moment r a (s.act i).moment ∧
        (s.act i).state? i = some (.ready (next a)) := by
  have hturned : ∀ {state : TaskState α}, Turned i state s (s.act i) → state.Lifts F →
      ∀ state', (s.act i).state? i = some state' → state'.Lifts F := by
    intro state hto hlifts state' hstate'
    obtain rfl := Option.some.inj (hto.state.symm.trans hstate')
    exact hlifts
  cases hregular.acts i with
  | stays hcan hsame => exact .inl ⟨congrArg Scene.moment hsame, hsame.symm ▸ h⟩
  | @returns x hstate hto hmoment =>
      have hpromise : F (.done x) := h _ hstate
      exact .inl ⟨hmoment, hturned hto hpromise⟩
  | answered hstate hgives hto hanswered =>
      exact .inr ⟨_, _, _, by simp [goesOn, hstate, TaskState.goesOn], h _ hstate, hgives,
        hanswered, hto.state⟩
  | rests hstate hmillis hto hmoment =>
      exact .inl ⟨hmoment, hturned hto ⟨_, hmillis, h _ hstate⟩⟩
  | @queues next hstate hto hmoment =>
      have hpromise : F (Script.ask .lock next) := h _ hstate
      exact .inl ⟨hmoment, hturned hto hpromise⟩
  | @wakes deadline ticket next early hstate hgives hto hanswered =>
      obtain ⟨millis, -, hpromise⟩ := h _ hstate
      refine .inr ⟨.rest millis ticket, next, early, by simp [goesOn, hstate, TaskState.goesOn],
        hpromise, hgives millis, ?_, hto.state⟩
      -- what is noted of a rest does not tell how long it was to be
      obtain ⟨met, hmet, hnoted⟩ := hanswered
      cases hmet with
      | rest _ _ _ hearly => exact ⟨_, .rest millis ticket early hearly, hnoted⟩
  | granted hstate hto hanswered =>
      exact .inr ⟨.lock, _, (), by simp [goesOn, hstate, TaskState.goesOn], h _ hstate,
        .met rfl .lock, hanswered, hto.state⟩

/-- Whoever gets an answer that can be given keeps a promise. -/
theorem lifts_act (hregular : s.Regular) {F : Work α → Prop}
    (hF : ∀ r next a, s.goesOn i = true → F (Script.ask r next) → s.Gives i r a → F (next a))
    (h : ∀ state, s.state? i = some state → state.Lifts F) :
    ∀ state, (s.act i).state? i = some state → state.Lifts F := by
  rcases promise_act hregular h with ⟨-, hlifts⟩ | ⟨r, next, a, hgoes, hpromise, hgives, -, hnow⟩
  · exact hlifts
  · intro state hstate
    obtain rfl := Option.some.inj (hnow.symm.trans hstate)
    exact hF r next a hgoes hpromise hgives

/-- A promise that every script makes is kept in the next scene. -/
theorem Follows.step (hregular : s.Regular) {F : Nat → J → Work α → Prop}
    (h : s.Follows F) (hwork : ∀ job, F s.schedule.tasks.length job (work job))
    (hF : ∀ i job r next a, s.jobs[i]? = some job → s.goesOn i = true →
      F i job (Script.ask r next) → s.Gives i r a → F i job (next a)) (c : Choice J) :
    (s.step work c).Follows F := by
  intro j state job hstate hjob
  have hold : ∀ {state'}, s.state? j = some state' → s.jobs[j]? = some job := by
    intro state' hstate'
    obtain ⟨job', hjob'⟩ := hregular.job_of_state hstate'
    obtain ⟨begun, hjobs⟩ := jobs_step work s c
    rw [← hjobs, List.getElem?_append_left (List.getElem?_eq_some_iff.mp hjob').1] at hjob
    exact hjob
  by_cases hact : c = .act j
  · subst hact
    rw [Scene.step, jobs_act] at hjob
    exact lifts_act hregular (fun r next a hgoes => hF j job r next a hjob hgoes)
      (fun state hstate => h j state job hstate hjob) state hstate
  · rcases state?_step hregular hact hstate with hsame | ⟨rfl, -⟩ | ⟨job', rfl, rfl, rfl⟩
    · exact h j state job hsame (hold hsame)
    · trivial
    · have hnew : (s.step work (.begin job')).jobs[s.schedule.tasks.length]? = some job' := by
        rw [← hregular.jobs]
        exact List.getElem?_concat_length
      obtain rfl := Option.some.inj (hnew.symm.trans hjob)
      exact hwork job'

/-- Whoever has come back has kept what was promised of the outcome. -/
theorem Follows.outcome {F : Nat → J → Work α → Prop} (h : s.Follows F) {job : J} {x : α}
    (hjob : s.jobs[i]? = some job) (houtcome : s.outcome? i = some x) : F i job (.done x) := by
  rcases state_of_outcome houtcome with hstate | hstate
  · exact h i _ job hstate hjob
  · exact h i _ job hstate hjob

/-! ### Going on -/

/-- One scene follows another by a step of somebody who can go on. -/
def Onward (s' s : Scene J α) : Prop := ∃ i, s.canAct i = true ∧ s' = s.act i

theorem set_add_singleton {β : Type} {l : List β} {i : Nat} {x y : β} (h : l[i]? = some x) :
    ((l.set i y : List β) : Multiset β) + {x} = (l : Multiset β) + {y} := by
  induction l generalizing i with
  | nil => simp at h
  | cons z l ih =>
      cases i with
      | zero =>
          obtain rfl := Option.some.inj h
          simp only [List.set_cons_zero, ← Multiset.cons_coe, ← Multiset.singleton_add]
          ac_rfl
      | succ i =>
          have hrest := ih (i := i) (by simpa using h)
          simp only [List.set_cons_succ, ← Multiset.cons_coe, ← Multiset.singleton_add, add_assoc]
          rw [hrest]

/-- How all tasks stand. -/
def states (s : Scene J α) : List (TaskState α) := s.schedule.tasks.map Task.state

theorem getElem?_states (s : Scene J α) (i : Nat) : s.states[i]? = s.state? i := by
  rw [states, List.getElem?_map, state?]

theorem Turned.states {state : TaskState α} (h : Turned i state s s') :
    s'.states = s.states.set i state := by
  refine List.ext_getElem? fun j => ?_
  rw [getElem?_states, List.getElem?_set]
  by_cases hij : i = j
  · subst hij
    have hlt : i < s.states.length := by
      rw [Scene.states, List.length_map, ← h.length]
      exact lt_of_isSome (by rw [h.state]; rfl)
    rw [if_pos rfl, if_pos hlt, h.state]
  · rw [if_neg hij, getElem?_states, h.others j fun heq => hij heq.symm]

/-- Whoever goes on stands in another way, and everybody else as before. -/
theorem shrinks_act (hregular : s.Regular) (hcan : s.canAct i = true) :
    ∃ state state', s.state? i = some state ∧ state'.Shrinks state ∧
      Turned i state' s (s.act i) := by
  cases hregular.acts i with
  | stays hnot hsame => simp [hnot] at hcan
  | returns hstate hto hmoment => exact ⟨_, _, hstate, .returned _, hto⟩
  | answered hstate hgives hto hanswered => exact ⟨_, _, hstate, .answered _ _, hto⟩
  | rests hstate hmillis hto hmoment => exact ⟨_, _, hstate, .rests _ _ _ _, hto⟩
  | queues hstate hto hmoment => exact ⟨_, _, hstate, .queues _, hto⟩
  | wakes hstate hgives hto hanswered => exact ⟨_, _, hstate, .wakes _ _ _ _, hto⟩
  | granted hstate hto hanswered => exact ⟨_, _, hstate, .granted _, hto⟩

section Onward

variable {I : Scene J α → Prop} (hregular : ∀ s, I s → s.Regular) (hact : ∀ s i, I s → I (s.act i))

include hregular hact

/-- Nobody can go on and on without time passing. -/
theorem acc_onward_of (h : I s) : Acc Onward s := by
  have hstates := (TaskState.wellFounded_shrinks (α := α)).cutExpand.apply
    (s.states : Multiset (TaskState α))
  generalize hs : (s.states : Multiset (TaskState α)) = states at hstates
  -- on the states of all tasks, of which one is replaced by a smaller one
  induction hstates generalizing s with
  | intro states _ ih =>
      subst hs
      refine ⟨_, fun s' hs' => ?_⟩
      obtain ⟨i, hcan, rfl⟩ := hs'
      obtain ⟨state, state', hstate, hshrinks, hturned⟩ := shrinks_act (hregular s h) hcan
      refine ih _ ⟨{state'}, state, by simpa using hshrinks, ?_⟩ (hact s i h) rfl
      rw [hturned.states]
      exact set_add_singleton ((getElem?_states s i).trans hstate)

/-- As long as tasks take turns, there comes a scene in which nobody can go on. -/
theorem leads_still_of (work : J → Work α) (h : I s) :
    ∃ turns : List Nat, (s.run work (turns.map .act)).isStill = true := by
  have hacc := acc_onward_of hregular hact h
  induction hacc with
  | intro s _ ih =>
      cases hstill : s.isStill with
      | true => exact ⟨[], hstill⟩
      | false =>
          obtain ⟨i, -, hcan⟩ : ∃ i ∈ List.range s.schedule.tasks.length, s.canAct i = true := by
            simpa [isStill] using hstill
          obtain ⟨turns, hlast⟩ := ih (s.act i) ⟨i, hcan, rfl⟩ (hact s i h)
          exact ⟨i :: turns, hlast⟩

end Onward

theorem acc_onward (hsound : s.Sound T account) : Acc Onward s :=
  acc_onward_of (fun _ h => h.regular) (fun _ i h => h.act i) hsound

theorem leads_still (work : J → Work α) (hsound : s.Sound T account) :
    ∃ turns : List Nat, (s.run work (turns.map .act)).isStill = true :=
  leads_still_of (fun _ h => h.regular) (fun _ i h => h.act i) work hsound

/-! ### Standing still -/

/-- If nobody can go on, and every rest would have ended, then everybody is over. -/
theorem idle_of_still (hsound : s.Sound T account) (hstill : s.isStill = true)
    (hrests : ∀ i deadline ticket next, s.state? i = some (.resting deadline ticket next) →
      s.station.signal.endedSince ticket = true) : s.isIdle = true := by
  have hover : ∀ i state, s.state? i = some state →
      (∃ next, state = .inLine next ∧ s.station.lock.holder ≠ some i) ∨
        (∃ x, state = .finished x) ∨ state = .cancelled := by
    intro i state hstate
    have hcan := canAct_of_still hstill i
    rw [canAct, hstate] at hcan
    cases state with
    | ready w => simp at hcan
    | resting deadline ticket next => simp [hrests i deadline ticket next hstate] at hcan
    | inLine next => exact .inl ⟨next, rfl, by simpa using hcan⟩
    | finished x => exact .inr (.inl ⟨x, rfl⟩)
    | cancelled => exact .inr (.inr rfl)
  -- whoever held the lock could go on, so nobody holds it, and nobody is in line
  have hnobody : s.station.lock.holder = none := by
    rw [Option.eq_none_iff_forall_ne_some]
    intro i hholder
    obtain ⟨state, hstate⟩ := exists_state (hsound.holder i hholder)
    obtain ⟨job, hstands⟩ := hsound.standing hstate
    rw [holds, decide_eq_true hholder] at hstands
    rcases hover i state hstate with ⟨next, -, hnot⟩ | ⟨x, rfl⟩ | rfl
    · exact hnot hholder
    · exact absurd hstands.1 (by simp)
    · exact absurd hstands (by simp [Terms.Stands])
  have hempty := hsound.orderly.free hnobody
  refine List.all_eq_true.mpr fun t ht => ?_
  obtain ⟨i, hi⟩ := List.mem_iff_getElem?.mp ht
  rcases hover i t.state (by rw [state?, hi, Option.map_some]) with ⟨next, hnext, -⟩ | ⟨x, hx⟩ | hx
  · have hwaits := hsound.waits i t next hi hnext
    rw [hnobody, hempty] at hwaits
    simp at hwaits
  · simp [hx]
  · simp [hx]

/-- No rest is over yet. -/
def Undue (s : Scene J α) : Prop :=
  ∀ i deadline ticket next, s.state? i = some (.resting deadline ticket next) →
    s.schedule.now < deadline

theorem Undue.step (h : s.Undue) (hregular : s.Regular) {c : Choice J}
    (hc : ∀ millis, c ≠ .pass millis) : (s.step work c).Undue := by
  intro i deadline ticket next hstate
  rw [now_step hregular hc]
  by_cases hact : c = .act i
  · subst hact
    have hturned : ∀ {state : TaskState α}, Turned i state s (s.act i) →
        state = .resting deadline ticket next :=
      fun hto => Option.some.inj (hto.state.symm.trans hstate)
    cases hregular.acts i with
    | stays hcan hsame => exact h i deadline ticket next (hsame ▸ hstate)
    | returns hstate' hto => cases hturned hto
    | answered hstate' hgives hto => cases hturned hto
    | rests hstate' hmillis hto =>
        obtain ⟨rfl, -⟩ := TaskState.resting.inj (hturned hto)
        exact Nat.lt_add_of_pos_right (Nat.pos_of_ne_zero hmillis)
    | queues hstate' hto => cases hturned hto
    | wakes hstate' hgives hto => cases hturned hto
    | granted hstate' hto => cases hturned hto
  · rcases state?_step hregular hact hstate with hsame | ⟨heq, -⟩ | ⟨job, -, -, heq⟩
    · exact h i deadline ticket next hsame
    · cases heq
    · cases heq

theorem undue_of_still (h : s.isStill = true) : s.Undue := by
  intro i deadline ticket next hstate
  have hcan := canAct_of_still h i
  simp only [canAct, hstate, Bool.or_eq_false_iff, decide_eq_false_iff_not] at hcan
  exact Nat.lt_of_not_le hcan.2

end Scene

end Sluice
