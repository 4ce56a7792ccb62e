import Mathlib.Data.List.Induction
import Sluice.Proofs.Broker.Operation

/-! # How names become known

A name becomes known in one of two ways: it is declared, with a kind, or a message is delivered
there first, and then it is a queue, whatever those who deliver take it for. Which of the two comes
first decides once and for all, and a session can inspect the destination exactly if it is a queue.
-/

namespace Sluice

namespace Operation

/-- The destinations that an operation names, of the kind for which they are taken. -/
def destinations : Operation → List Destination
  | .declare d => [d]
  | .inject d _ => [d]
  | .call (.createProducer _ d) => [d]
  | .call (.createBrowser _ d) => [d]
  | _ => []

/-- Whether an operation declares a name. -/
def declares (name : String) : Operation → Bool
  | .declare d => d.name = name
  | _ => false

end Operation

namespace Broker

/-- Whoever names a destination takes it for a topic. -/
def TakenForTopic (name : String) (run : List (Nat × Operation)) : Prop :=
  ∀ step ∈ run, ∀ d ∈ step.2.destinations, d.name = name → d.kind = .topic

instance (name : String) (run : List (Nat × Operation)) : Decidable (TakenForTopic name run) :=
  inferInstanceAs
    (Decidable (∀ step ∈ run, ∀ d ∈ step.2.destinations, d.name = name → d.kind = .topic))

/-- A message was delivered at a destination before anybody had declared it. -/
def Adopted (name : String) (run : List (Nat × Operation)) : Prop :=
  ∃ before now o rest, run = before ++ (now, o) :: rest ∧
    (∀ step ∈ before, step.2.declares name = false) ∧
      ∃ p ∈ (({} : Broker).after before).delivered now o, p.destination = name

variable {name : String} {run : List (Nat × Operation)}

theorem Adopted.append (h : Adopted name run) (later : List (Nat × Operation)) :
    Adopted name (run ++ later) := by
  obtain ⟨before, now, o, rest, rfl, hbefore, hdelivered⟩ := h
  exact ⟨before, now, o, rest ++ later, by simp, hbefore, hdelivered⟩

theorem kind?_after_of_known {b : Broker} {kind : DestinationKind} (h : b.kind? name = some kind)
    (run : List (Nat × Operation)) : (b.after run).kind? name = some kind := by
  induction run generalizing b with
  | nil => exact h
  | cons step rest ih =>
      rw [after_cons]
      exact ih (kind?_operate_of_known h step.1 step.2)

theorem kind?_operate_of_declares {b : Broker} {o : Operation} (h : o.declares name = true)
    (now : Nat) : (b.operate now o).2.kind? name ≠ none := by
  cases o with
  | declare d =>
      have heq : d.name = name := by simpa [Operation.declares] using h
      rw [kind?_operate]
      cases b.kind? name <;> simp [heq]
  | _ => simp [Operation.declares] at h

theorem kind?_operate_of_delivered {b : Broker} {now : Nat} {o : Operation} {p : Parcel}
    (hp : p ∈ b.delivered now o) (hname : p.destination = name) :
    (b.operate now o).2.kind? name = some ((b.kind? name).getD .queue) := by
  have hany : (b.delivered now o).any (fun p => p.destination = name) = true := by
    rw [List.any_eq_true]
    exact ⟨p, hp, by simpa using hname⟩
  rw [kind?_operate]
  cases o with
  | declare d => simp [delivered] at hp
  | _ => cases hkind : b.kind? name <;> simp [hany]

/-- By what an unknown name becomes known. -/
theorem known_by {b : Broker} {now : Nat} {o : Operation} {kind : DestinationKind}
    (hunknown : b.kind? name = none) (h : (b.operate now o).2.kind? name = some kind) :
    (∃ d, o = .declare d ∧ d.name = name ∧ d.kind = kind) ∨
      kind = .queue ∧ ∃ p ∈ b.delivered now o, p.destination = name := by
  rw [kind?_operate, hunknown, Option.none_or] at h
  cases o with
  | declare d =>
      left
      simpa using h
  | _ =>
      right
      dsimp only at h
      split at h
      next hany => exact ⟨(Option.some.inj h).symm, by simpa using hany⟩
      next => simp at h

/-- A name that nobody has declared is unknown, or known as a queue. -/
theorem kind?_after_of_not_declared (h : ∀ step ∈ run, step.2.declares name = false) :
    (({} : Broker).after run).kind? name ≠ some .topic := by
  induction run using List.reverseRecOn with
  | nil => simp [kind?]
  | append_singleton run step ih =>
      have hbefore := ih fun step hstep => h step (List.mem_append_left _ hstep)
      have hlast := h step (List.mem_append_right _ List.mem_cons_self)
      rw [after_append, after_cons, after_nil]
      intro htopic
      cases hcase : (({} : Broker).after run).kind? name with
      | none =>
          rcases known_by hcase htopic with ⟨d, hd, hname, -⟩ | ⟨hkind, -⟩
          · simp [hd, Operation.declares, hname] at hlast
          · simp at hkind
      | some kind =>
          have hknown := kind?_operate_of_known hcase step.1 step.2
          have hsame : some kind = some .topic := hknown.symm.trans htopic
          exact hbefore (hcase.trans hsame)

theorem not_declared_of_unknown (h : (({} : Broker).after run).kind? name = none) :
    ∀ step ∈ run, step.2.declares name = false := by
  intro step hstep
  by_contra hdeclares
  -- the declaration would have made the name known, and known it would have stayed
  obtain ⟨first, second, rfl⟩ := List.append_of_mem hstep
  have hknown := kind?_operate_of_declares (b := ({} : Broker).after first)
    (by simpa using hdeclares) step.1
  obtain ⟨kind, hkind⟩ := Option.ne_none_iff_exists'.mp hknown
  rw [after_append, after_cons, kind?_after_of_known hkind second] at h
  simp at h

/-- A name that everybody takes for a topic is known as a queue exactly if it was adopted. -/
theorem kind?_after_eq_queue_iff (htopic : TakenForTopic name run) :
    (({} : Broker).after run).kind? name = some .queue ↔ Adopted name run := by
  constructor
  · intro hqueue
    induction run using List.reverseRecOn with
    | nil => simp [kind?] at hqueue
    | append_singleton run step ih =>
        have hbefore : TakenForTopic name run :=
          fun step hstep => htopic step (List.mem_append_left _ hstep)
        have hlast := htopic step (List.mem_append_right _ List.mem_cons_self)
        rw [after_append, after_cons, after_nil] at hqueue
        -- either the name was known before the last operation, or that operation made it known
        cases hcase : (({} : Broker).after run).kind? name with
        | some kind =>
            have hknown := kind?_operate_of_known hcase step.1 step.2
            have hsame : some kind = some .queue := hknown.symm.trans hqueue
            exact (ih hbefore (hcase.trans hsame)).append _
        | none =>
            rcases known_by hcase hqueue with ⟨d, hd, hname, hkind⟩ | ⟨-, hdelivered⟩
            · have htaken := hlast d (by simp [hd, Operation.destinations]) hname
              simp [htaken] at hkind
            · refine ⟨run, step.1, step.2, [], rfl, ?_, hdelivered⟩
              exact not_declared_of_unknown hcase
  · rintro ⟨before, now, o, rest, rfl, hbefore, p, hp, hname⟩
    -- without a declaration the name cannot be known as a topic when the message is delivered
    have hnot := kind?_after_of_not_declared hbefore
    have hknown := kind?_operate_of_delivered hp hname
    have hkind : ((({} : Broker).after before).kind? name).getD .queue = .queue := by
      cases hcase : (({} : Broker).after before).kind? name with
      | none => rfl
      | some kind =>
          cases kind with
          | queue => rfl
          | topic => exact absurd hcase hnot
    rw [hkind] at hknown
    rw [after_append, after_cons]
    exact kind?_after_of_known hknown rest

/-- A browser is given out for a topic exactly if its name counts as a queue. -/
theorem isSome_of_createBrowser {b b' : Broker} {now : Nat} {s : Handle .session} {d : Destination}
    {found : Option (Handle .browser)}
    (h : b.perform now (.createBrowser s d) = (.ok found, b')) :
    found.isSome ↔ b.kindOf d = .queue := by
  cases effect_of_perform h with
  | notInspectable _ _ _ hkind => simp [hkind]
  | browserOpened _ _ _ hkind => simp [hkind]

theorem kindOf_topic_eq_queue_iff (b : Broker) (name : String) :
    b.kindOf (.topic name) = .queue ↔ b.kind? name = some .queue := by
  rw [kindOf_eq]
  change (b.kind? name).getD .topic = .queue ↔ _
  cases b.kind? name <;> simp

end Broker

end Sluice
