import Sluice.Task.World

/-! # The line for a lock

Nobody waits for a lock that is free, and nobody waits twice, or for a lock that they hold. Asking,
passing on and leaving keep it so.
-/

namespace Sluice

namespace Lock

/-- A lock with a line as it should be. -/
structure Orderly (l : Lock) : Prop where
  free : l.holder = none → l.line = []
  nodup : l.line.Nodup
  apart : ∀ i, l.holder = some i → i ∉ l.line

variable {l : Lock} {i j : Nat}

theorem orderly_new : ({} : Lock).Orderly where
  free _ := rfl
  nodup := List.nodup_nil
  apart _ _ := List.not_mem_nil

theorem join_of_free (h : l.holder = none) (i : Nat) : l.join i = { l with holder := some i } := by
  rw [join, h]

theorem join_of_taken (h : l.holder = some j) (i : Nat) :
    l.join i = { l with line := l.line ++ [i] } := by
  rw [join, h]

/-- Whoever comes out of the line has the lock next. -/
theorem mem_of_pass_holder (h : l.pass.holder = some i) : i ∈ l.line :=
  List.mem_of_mem_head? (Option.mem_def.mpr h)

theorem mem_of_mem_pass (h : i ∈ l.pass.line) : i ∈ l.line := List.mem_of_mem_tail h

theorem mem_leave : j ∈ (l.leave i).line ↔ j ∈ l.line ∧ j ≠ i := by
  simp [leave]

/-- Nobody is lost when a lock is passed on. -/
theorem waits_pass (h : i ∈ l.line) : l.pass.holder = some i ∨ i ∈ l.pass.line := by
  unfold pass
  cases hline : l.line with
  | nil => simp [hline] at h
  | cons k rest =>
      rw [hline, List.mem_cons] at h
      rcases h with rfl | hrest
      · exact .inl rfl
      · exact .inr hrest

namespace Orderly

theorem join (h : l.Orderly) (hholder : l.holder ≠ some i) (hline : i ∉ l.line) :
    (l.join i).Orderly := by
  cases hcase : l.holder with
  | none =>
      rw [join_of_free hcase]
      have hempty := h.free hcase
      exact ⟨by simp, h.nodup, by simp [hempty]⟩
  | some j =>
      rw [join_of_taken hcase]
      refine ⟨by simp [hcase], ?_, ?_⟩
      · rw [List.nodup_append]
        refine ⟨h.nodup, by simp, ?_⟩
        rintro a ha b hb rfl
        exact hline (List.mem_singleton.mp hb ▸ ha)
      · intro k hk hmem
        rcases List.mem_append.mp hmem with hold | hnew
        · exact h.apart k hk hold
        · exact hholder (List.mem_singleton.mp hnew ▸ hk)

theorem pass (h : l.Orderly) : l.pass.Orderly := by
  refine ⟨?_, h.nodup.tail, ?_⟩
  · intro hnone
    have hempty : l.line = [] := List.head?_eq_none_iff.mp hnone
    simp [Lock.pass, hempty]
  · intro k hk
    have hnodup := h.nodup
    unfold Lock.pass at hk ⊢
    cases hline : l.line with
    | nil => simp
    | cons first rest =>
        rw [hline] at hk hnodup
        obtain rfl := Option.some.inj hk
        exact (List.nodup_cons.mp hnodup).1

theorem leave (h : l.Orderly) (i : Nat) : (l.leave i).Orderly := by
  refine ⟨?_, h.nodup.filter _, ?_⟩
  · intro hnone
    simp [Lock.leave, h.free hnone]
  · intro k hk hmem
    exact h.apart k hk (mem_leave.mp hmem).1

end Orderly

end Lock

end Sluice
