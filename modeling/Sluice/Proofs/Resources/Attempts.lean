import Sluice.Proofs.Resources.Holdings

/-! # Attempts to open everything

An attempt makes its steps in order up to the first that fails, and then closes what is held, the
last handle first, whatever becomes of the closing. An attempt at many steps is put together from
attempts at a few, on top of what is held already. In the end whatever was given out is closed or
held, and nothing is called with a handle that was closed.
-/

namespace Sluice

/-- A call and the reply to it. -/
structure Replied where
  call : Call
  reply : call.Reply

namespace Call

/-- The step of an acquisition that a call makes. -/
def step? : Call → Option AcquisitionStep
  | .createConnection _ => some .openConnection
  | .createSession _ _ _ => some .createSession
  | .createProducer _ _ => some .createProducer
  | .applySettings _ _ => some .applySettings
  | .startConnection _ => some .startConnection
  | _ => none

end Call

namespace Replied

/-- The handles that were given out. -/
def opened (e : Replied) : List AnyHandle := e.call.opened e.reply

/-- The handle that was closed, however that was reported. -/
def closed (e : Replied) : List AnyHandle := e.call.closes.toList

/-- The step that failed, and why. -/
def failure? (e : Replied) : Option (AcquisitionStep × BrokerError) :=
  match e.call.step?, e.reply with
  | some step, .error cause => some (step, cause)
  | _, _ => none

end Replied

/-- The calls close what is held, in the order in which it is listed. -/
def Unwinds (held : List AnyHandle) (calls : List Replied) : Prop :=
  calls.map (fun e => e.call.closes) = held.map some

/-- Steps are made one after the other, on top of what is held. The first that fails decides the
error, and everything that is held then is closed; if none fails, everything is held in the end. -/
inductive Attempt (d : Destination) : List AnyHandle → List AcquisitionStep → List Replied →
    Except ConfigurationError (List AnyHandle) → Prop
  | finished (held : List AnyHandle) : Attempt d held [] [] (.ok held)
  | made {held : List AnyHandle} {step : AcquisitionStep} {steps : List AcquisitionStep}
      {calls : List Replied} {r : Except ConfigurationError (List AnyHandle)} (e : Replied)
      (hstep : e.call.step? = some step) (hmade : e.failure? = none)
      (h : Attempt d (e.opened ++ held) steps calls r) :
      Attempt d held (step :: steps) (e :: calls) r
  | failed {held : List AnyHandle} {step : AcquisitionStep} {steps : List AcquisitionStep}
      {cause : BrokerError} {calls : List Replied} (e : Replied)
      (hfailed : e.failure? = some (step, cause)) (h : Unwinds held calls) :
      Attempt d held (step :: steps) (e :: calls) (.error (.resource step d.name cause))

/-- The kind of the handle that a step gives out, if it gives one out. -/
def AcquisitionStep.opens? : AcquisitionStep → Option HandleKind
  | .openConnection => some .connection
  | .createSession => some .session
  | .createProducer => some .producer
  | _ => none

namespace Replied

theorem kind_opened {e : Replied} {step : AcquisitionStep} (h : e.call.step? = some step) :
    (e.opened.map AnyHandle.kind).Sublist step.opens?.toList := by
  obtain ⟨c, reply⟩ := e
  cases c <;> simp only [Call.step?, Option.some.injEq, reduceCtorEq] at h <;> subst h <;>
    cases reply <;> simp [opened, Call.opened, AcquisitionStep.opens?, Handle.any]

/-- A step gives out at most one handle. -/
theorem reverse_opened {e : Replied} {step : AcquisitionStep} (h : e.call.step? = some step) :
    e.opened.reverse = e.opened := by
  have hlength : e.opened.length ≤ 1 := by
    simpa using (kind_opened h).length_le.trans Option.length_toList_le
  match e.opened, hlength with
  | [], _ => rfl
  | [_], _ => rfl

theorem closed_of_step {e : Replied} {step : AcquisitionStep} (h : e.call.step? = some step) :
    e.closed = [] := by
  cases hcall : e.call <;> simp_all [Call.step?, closed, Call.closes]

theorem step_of_failure {e : Replied} {step : AcquisitionStep} {cause : BrokerError}
    (h : e.failure? = some (step, cause)) : e.call.step? = some step ∧ e.opened = [] := by
  obtain ⟨c, reply⟩ := e
  cases c <;> cases reply <;> simp_all [failure?, Call.step?, opened, Call.opened]

/-- A call that closes a handle gives none out, is no step, and is made with that handle alone. -/
theorem of_closes {e : Replied} {h : AnyHandle} (hc : e.call.closes = some h) :
    e.opened = [] ∧ e.call.step? = none ∧ e.call.uses = [h] := by
  obtain ⟨c, reply⟩ := e
  cases c <;> cases reply <;>
    simp_all [Call.closes, opened, Call.opened, Call.step?, Call.uses]

end Replied

namespace Unwinds

variable {held held' : List AnyHandle} {calls calls' : List Replied}

theorem append (h : Unwinds held calls) (h' : Unwinds held' calls') :
    Unwinds (held ++ held') (calls ++ calls') := by
  unfold Unwinds at *
  rw [List.map_append, List.map_append, h, h']

theorem closed (h : Unwinds held calls) : calls.flatMap Replied.closed = held := by
  induction held generalizing calls with
  | nil =>
      obtain rfl := List.map_eq_nil_iff.mp h
      rfl
  | cons k held ih =>
      obtain ⟨e, calls, rfl, he, hrest⟩ := List.map_eq_cons_iff.mp h
      rw [List.flatMap_cons, ih hrest, Replied.closed, he]
      rfl

theorem closes (h : Unwinds held calls) {e : Replied} (he : e ∈ calls) :
    ∃ k, e.call.closes = some k := by
  have hmem : e.call.closes ∈ held.map some := h ▸ List.mem_map_of_mem he
  obtain ⟨k, -, hk⟩ := List.mem_map.mp hmem
  exact ⟨k, hk.symm⟩

theorem opened (h : Unwinds held calls) : calls.flatMap Replied.opened = [] := by
  rw [List.flatMap_eq_nil_iff]
  intro e he
  obtain ⟨k, hk⟩ := h.closes he
  exact (Replied.of_closes hk).1

theorem steps (h : Unwinds held calls) : calls.filterMap (fun e => e.call.step?) = [] := by
  rw [List.filterMap_eq_nil_iff]
  intro e he
  obtain ⟨k, hk⟩ := h.closes he
  exact (Replied.of_closes hk).2.1

end Unwinds

/-- The steps that the calls made. -/
def stepsOf (calls : List Replied) : List AcquisitionStep :=
  calls.filterMap fun e => e.call.step?

/-- The result that is due to the first step that failed. -/
def verdict (d : Destination) (calls : List Replied) : Except ConfigurationError Unit :=
  match calls.findSome? Replied.failure? with
  | none => .ok ()
  | some (step, cause) => .error (.resource step d.name cause)

/-- No call is made with a handle after the call that closes it. -/
def Silent (calls : List Replied) : Prop :=
  calls.Pairwise fun earlier later => ∀ h ∈ earlier.closed, h ∉ later.call.uses

theorem Unwinds.silent {held : List AnyHandle} {calls : List Replied} (h : Unwinds held calls)
    (hnodup : held.Nodup) : Silent calls := by
  induction held generalizing calls with
  | nil =>
      obtain rfl := List.map_eq_nil_iff.mp h
      exact List.Pairwise.nil
  | cons k held ih =>
      obtain ⟨e, calls, rfl, he, hrest⟩ := List.map_eq_cons_iff.mp h
      obtain ⟨hk, hheld⟩ := List.nodup_cons.mp hnodup
      refine List.pairwise_cons.mpr ⟨?_, ih hrest hheld⟩
      intro later hlater k' hk'
      obtain rfl : k' = k := by simpa [Replied.closed, he] using hk'
      -- what is closed later is still held now, so it is another handle
      have hmem : later.call.closes ∈ held.map some := hrest ▸ List.mem_map_of_mem hlater
      obtain ⟨other, hother, hcloses⟩ := List.mem_map.mp hmem
      rw [(Replied.of_closes hcloses.symm).2.2, List.mem_singleton]
      exact fun heq => hk (heq ▸ hother)

namespace Attempt

variable {d : Destination} {held held' base : List AnyHandle}
  {steps steps' : List AcquisitionStep} {calls calls' : List Replied}
  {r : Except ConfigurationError (List AnyHandle)} {e : ConfigurationError}

/-! ### Attempts are put together -/

/-- What was held before is still held in the end. -/
theorem under (h : Attempt d held steps calls (.ok held')) (base : List AnyHandle) :
    Attempt d (held ++ base) steps calls (.ok (held' ++ base)) := by
  generalize hr : Except.ok held' = r at h
  induction h with
  | finished held =>
      obtain rfl := Except.ok.inj hr
      exact .finished _
  | made e hstep hmade _ ih =>
      refine .made e hstep hmade ?_
      rw [← List.append_assoc]
      exact ih hr
  | failed => cases hr

/-- One attempt goes on where the other has ended well. -/
theorem append (h : Attempt d held steps calls (.ok held')) (h' : Attempt d held' steps' calls' r) :
    Attempt d held (steps ++ steps') (calls ++ calls') r := by
  generalize hr : Except.ok held' = result at h
  induction h with
  | finished held =>
      obtain rfl := Except.ok.inj hr
      exact h'
  | made e hstep hmade _ ih => exact .made e hstep hmade (ih hr)
  | failed => cases hr

/-- An attempt that has failed fails with all that was held before, which is closed then. -/
theorem unwound (h : Attempt d held steps calls (.error e)) (hbase : Unwinds base calls')
    (later : List AcquisitionStep) :
    Attempt d (held ++ base) (steps ++ later) (calls ++ calls') (.error e) := by
  generalize hr : Except.error e = r at h
  induction h with
  | finished => cases hr
  | made e' hstep hmade _ ih =>
      refine .made e' hstep hmade ?_
      rw [← List.append_assoc]
      exact ih hr
  | failed e' hfailed hunwinds =>
      obtain rfl := Except.error.inj hr
      exact .failed e' hfailed (hunwinds.append hbase)

/-! ### What an attempt comes to -/

/-- What was given out or held before is closed or held in the end, the last one first. -/
theorem settled (h : Attempt d held steps calls r) :
    calls.flatMap Replied.closed ++ r.toOption.getD [] =
      (calls.flatMap Replied.opened).reverse ++ held := by
  induction h with
  | finished held => rfl
  | made e hstep hmade _ ih =>
      rw [List.flatMap_cons, List.flatMap_cons, List.reverse_append,
        Replied.reverse_opened hstep, Replied.closed_of_step hstep, List.nil_append, ih,
        List.append_assoc]
  | failed e hfailed hunwinds =>
      obtain ⟨hstep, hopened⟩ := Replied.step_of_failure hfailed
      rw [List.flatMap_cons, List.flatMap_cons, hunwinds.closed, hunwinds.opened, hopened,
        Replied.closed_of_step hstep]
      simp [Except.toOption]

/-- An attempt that ends well closes nothing and makes all steps. -/
theorem of_ok (h : Attempt d held steps calls (.ok held')) :
    calls.flatMap Replied.closed = [] ∧ stepsOf calls = steps := by
  generalize hr : Except.ok held' = r at h
  induction h with
  | finished => exact ⟨rfl, rfl⟩
  | made e hstep hmade _ ih =>
      obtain ⟨hclosed, hsteps⟩ := ih hr
      refine ⟨?_, ?_⟩
      · rw [List.flatMap_cons, hclosed, Replied.closed_of_step hstep]
        rfl
      · rw [stepsOf, List.filterMap_cons, hstep, ← hsteps]
        rfl
  | failed => cases hr

theorem steps_prefix (h : Attempt d held steps calls r) : stepsOf calls <+: steps := by
  induction h with
  | finished => exact List.nil_prefix
  | made e hstep hmade _ ih =>
      rw [stepsOf, List.filterMap_cons, hstep]
      exact (List.prefix_cons_inj _).mpr ih
  | failed e hfailed hunwinds =>
      rw [stepsOf, List.filterMap_cons, (Replied.step_of_failure hfailed).1, hunwinds.steps]
      exact (List.prefix_cons_inj _).mpr List.nil_prefix

/-- After a step that failed nothing is called but what closes handles. -/
theorem stops (h : Attempt d held steps calls r) :
    calls.Pairwise fun earlier later =>
      earlier.failure?.isSome → later.call.closes.isSome := by
  induction h with
  | finished => exact List.Pairwise.nil
  | made e hstep hmade _ ih => exact List.pairwise_cons.mpr ⟨by simp [hmade], ih⟩
  | failed e hfailed hunwinds =>
      refine List.pairwise_cons.mpr ⟨?_, ?_⟩
      · intro later hlater _
        obtain ⟨k, hk⟩ := hunwinds.closes hlater
        simp [hk]
      · apply List.pairwise_of_forall_mem_list
        intro _ _ later hlater _
        obtain ⟨k, hk⟩ := hunwinds.closes hlater
        simp [hk]

/-- A connection is not stopped before everything is held. -/
theorem not_stopped (h : Attempt d held steps calls r) {e : Replied} (he : e ∈ calls)
    (c : Handle .connection) : e.call ≠ .stopConnection c := by
  -- every call makes a step or closes a handle
  have hstep : e.call.step? ≠ none ∨ e.call.closes ≠ none := by
    induction h with
    | finished => cases he
    | made first hstep _ _ ih =>
        rcases List.mem_cons.mp he with rfl | he
        · exact .inl (by simp [hstep])
        · exact ih he
    | failed first hfailed hunwinds =>
        rcases List.mem_cons.mp he with rfl | he
        · exact .inl (by simp [(Replied.step_of_failure hfailed).1])
        · obtain ⟨k, hk⟩ := hunwinds.closes he
          exact .inr (by simp [hk])
  intro hcall
  simp [hcall, Call.step?, Call.closes] at hstep

theorem verdict_eq (h : Attempt d held steps calls r) : verdict d calls = r.map fun _ => () := by
  unfold verdict
  induction h with
  | finished => rfl
  | made e hstep hmade _ ih =>
      rw [List.findSome?_cons, hmade]
      exact ih
  | failed e hfailed _ =>
      rw [List.findSome?_cons, hfailed]
      rfl

/-- Each step gives out at most one handle, of its own kind. -/
theorem kinds_sublist (h : Attempt d held steps calls r) :
    ((calls.flatMap Replied.opened).map AnyHandle.kind).Sublist
      (steps.flatMap fun step => step.opens?.toList) := by
  induction h with
  | finished => exact List.nil_sublist _
  | made e hstep hmade _ ih =>
      rw [List.flatMap_cons, List.flatMap_cons, List.map_append]
      exact (Replied.kind_opened hstep).append ih
  | failed e hfailed hunwinds =>
      rw [List.flatMap_cons, hunwinds.opened, (Replied.step_of_failure hfailed).2]
      exact List.nil_sublist _

/-- An attempt closes no handle twice if it gives none out twice. -/
theorem silent (h : Attempt d held steps calls r) (hnodup : (calls.flatMap Replied.closed).Nodup) :
    Silent calls := by
  induction h with
  | finished => exact List.Pairwise.nil
  | made e hstep hmade _ ih =>
      have hclosed := Replied.closed_of_step hstep
      rw [List.flatMap_cons, hclosed] at hnodup
      exact List.pairwise_cons.mpr ⟨by simp [hclosed], ih hnodup⟩
  | failed e hfailed hunwinds =>
      obtain ⟨hstep, -⟩ := Replied.step_of_failure hfailed
      have hclosed := Replied.closed_of_step hstep
      rw [List.flatMap_cons, hclosed, hunwinds.closed] at hnodup
      exact List.pairwise_cons.mpr ⟨by simp [hclosed], hunwinds.silent hnodup⟩

end Attempt

end Sluice
