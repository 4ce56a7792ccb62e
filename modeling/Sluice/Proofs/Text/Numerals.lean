import Sluice.Text.Numeral

/-! # Numerals stay within their range

What is read from a numeral lies between the limits that it is read with, so a number of that range
takes it over as it is.
-/

namespace Sluice

theorem exists_of_bind_eq_ok {ε α β : Type} {r : Except ε α} {f : α → Except ε β} {y : β}
    (h : r >>= f = .ok y) : ∃ x, r = .ok x ∧ f x = .ok y := by
  cases r with
  | error e => cases h
  | ok x => exact ⟨x, rfl, h⟩

theorem exists_of_map_eq_ok {ε α β : Type} {r : Except ε α} {f : α → β} {y : β}
    (h : r.map f = .ok y) : ∃ x, r = .ok x ∧ f x = y := by
  cases r with
  | error e => cases h
  | ok x => exact ⟨x, rfl, Except.ok.inj h⟩

namespace Text

theorem readDigits_le {limit total n : Nat} {beyond : NumeralError} {cs : List Char}
    (htotal : total ≤ limit) (h : readDigits limit beyond total cs = .ok n) : n ≤ limit := by
  induction cs generalizing total with
  | nil =>
      obtain rfl := Except.ok.inj h
      exact htotal
  | cons c rest ih =>
      rw [readDigits] at h
      split at h
      next => cases h
      next digit _ =>
        simp only at h
        split at h
        next => cases h
        next hnext => exact ih (Nat.not_lt.mp hnext) h

theorem readNat_le {limit n : Nat} {s : String} (h : readNat limit s = .ok n) : n ≤ limit := by
  unfold readNat at h
  split at h
  · cases h
  · cases h
  · exact readDigits_le (Nat.zero_le _) h
  · exact readDigits_le (Nat.zero_le _) h

theorem readInt_mem {below above : Nat} {i : Int} {s : String}
    (h : readInt below above s = .ok i) : -(below : Int) ≤ i ∧ i ≤ above := by
  unfold readInt at h
  split at h
  · cases h
  · cases h
  · cases h
  all_goals
    obtain ⟨j, hj, rfl⟩ := exists_of_map_eq_ok h
    obtain ⟨n, hn, hnj⟩ := exists_of_bind_eq_ok hj
    obtain rfl := Except.ok.inj hnj
    have hle := readDigits_le (Nat.zero_le _) hn
    constructor <;> omega

end Text

end Sluice
