import Sluice.Proofs.Encoding.Maps
import Sluice.Proofs.Keyed
import Sluice.Proofs.Number.Widening

/-! # Reading a map body after any history

Fields are set under keys any number of times, a key perhaps with a field of another type each time.
What the getters answer depends on the field alone that was set last, and where several of them
answer they agree: an integer has one number and one text whichever getter reads it, and a float
that is read as a double is the same number.
-/

namespace Sluice

namespace FieldType

/-- A type of whole numbers. -/
def IsInteger (t : FieldType) : Prop := t.widest = .long

instance (t : FieldType) : Decidable t.IsInteger := inferInstanceAs (Decidable (_ = _))

/-- The number in what the getter of a type answers, if that is a whole one. -/
def number? : (t : FieldType) → t.Carrier → Option Int
  | .byte, n => some n.toInt
  | .short, n => some n.toInt
  | .int, n => some n.toInt
  | .long, n => some n.toInt
  | _, _ => none

theorem exists_number {t : FieldType} (ht : t.IsInteger) (x : t.Carrier) :
    ∃ n, t.number? x = some n := by
  cases t with
  | byte | short | int | long => exact ⟨_, rfl⟩
  | _ => cases ht

end FieldType

namespace Field

/-- The whole number that a field holds. -/
def number? (f : Field) : Option Int := f.type.number? f.value

/-- An integer getter answers for the integers of no greater width, with the number that is held. -/
theorem number?_read (f : Field) {t : FieldType} (ht : t.IsInteger) :
    (f.read t).bind t.number? =
      if f.type.IsInteger ∧ f.type.bits ≤ t.bits then f.number? else none := by
  cases t with
  | byte | short | int | long =>
      cases f <;> simp [read, asByte?, asShort?, asInt?, asLong?, type, value, number?,
        FieldType.IsInteger, FieldType.widest, FieldType.bits, FieldType.number?]
  | _ => cases ht

theorem asString?_of_number {f : Field} {n : Int} (h : f.number? = some n) :
    f.asString? = some (toString n) := by
  cases f with
  | byte m | short m | int m | long m =>
      obtain rfl := Option.some.inj h
      rfl
  | _ => cases h

/-- Whoever answers for an integer, the text apart, reads integers. -/
theorem isInteger_of_read {f : Field} {t : FieldType} (hf : f.type.IsInteger) (ht : t ≠ .string)
    {x : t.Carrier} (h : f.read t = some x) : t.IsInteger := by
  by_contra hother
  have hexcludes : t.Excludes f.type := .inl fun heq => hother (heq.trans hf)
  rw [read_of_excludes ht hexcludes] at h
  cases h

end Field

namespace MapBody

/-- The getters agree on what stands under a key. -/
structure Agrees (b : MapBody) (key : String) : Prop where
  /-- An integer getter answers the number that is stored, so does every wider one, and the number
  in decimal is the text. -/
  integer : ∀ t : FieldType, t.IsInteger → ∀ x, b.read key t = some x →
    ∃ n, t.number? x = some n ∧ (b.get? key).bind Field.number? = some n ∧
      b.getString? key = some (toString n) ∧
      ∀ s : FieldType, s.IsInteger → t.bits ≤ s.bits →
        ∃ y, b.read key s = some y ∧ s.number? y = some n
  /-- A float is widened to the double of the same value. -/
  float : ∀ x, b.getFloat? key = some x → b.getDouble? key = some x.widen ∧
    ∃ bits, x.widen.read = x.read.lengthened bits
  /-- Where an integer getter answers, no getter of another family does, the texts apart. -/
  apart : ∀ t s : FieldType, t.IsInteger → ¬ s.IsInteger → s ≠ .string →
    b.read key t = none ∨ b.read key s = none

theorem agrees (b : MapBody) (key : String) : b.Agrees key where
  integer t ht x hx := by
    rw [read_eq, Option.bind_eq_some_iff] at hx
    obtain ⟨f, hf, hx⟩ := hx
    obtain ⟨n, hn⟩ := FieldType.exists_number ht x
    have hread := f.number?_read ht
    rw [hx, Option.bind_some, hn] at hread
    split at hread
    next hcondition =>
      obtain ⟨hinteger, hbits⟩ := hcondition
      refine ⟨n, hn, by rw [hf, Option.bind_some, hread], ?_, ?_⟩
      · rw [getString?, hf, Option.bind_some, Field.asString?_of_number hread.symm]
      · intro s hs hwider
        have hwide := f.number?_read hs
        rw [if_pos ⟨hinteger, hbits.trans hwider⟩, ← hread] at hwide
        obtain ⟨y, hy, hnumber⟩ := Option.bind_eq_some_iff.mp hwide
        exact ⟨y, by rw [read_eq, hf, Option.bind_some, hy], hnumber⟩
    next => cases hread
  float x hx := by
    rw [getFloat?, Option.bind_eq_some_iff] at hx
    obtain ⟨f, hf, hx⟩ := hx
    cases f with
    | float y =>
        obtain rfl := Option.some.inj hx
        exact ⟨by rw [getDouble?, hf]; rfl, y.read_widen⟩
    | _ => cases hx
  apart t s ht hs hstring := by
    rw [read_eq, read_eq]
    cases hf : b.get? key with
    | none => exact .inl rfl
    | some f =>
        by_cases hinteger : f.type.IsInteger
        · right
          cases hread : f.read s with
          | none => exact hread
          | some x => exact absurd (Field.isInteger_of_read hinteger hstring hread) hs
        · left
          have hexcludes : t.Excludes f.type := .inl fun heq => hinteger (heq.symm.trans ht)
          exact Field.read_of_excludes (by rintro rfl; cases ht) hexcludes

/-- What a body holds that was made by setting fields one after the other: under each key that was
set the last field, and nothing else. -/
structure Holds (b : MapBody) (sets : List (String × Field)) : Prop where
  last : ∀ key f, Keyed.IsLast sets key f → ∀ t, b.read key t = f.read t
  never : ∀ key, key ∉ sets.map Prod.fst → ∀ t, b.read key t = none
  size : b.size = (sets.map Prod.fst).dedup.length
  increasing : b.keys.Pairwise (· < ·)
  keys : ∀ key, key ∈ b.keys ↔ key ∈ sets.map Prod.fst
  entries : ∀ key f, (key, f) ∈ b.entries ↔ Keyed.IsLast sets key f

theorem holds_ofList (sets : List (String × Field)) : Holds (Keyed.ofList sets) sets where
  last key f hlast t := by
    rw [read_eq, Keyed.get?_ofList_eq_some_iff.mpr hlast, Option.bind_some]
  never key hnever t := by
    have hnone : (Keyed.ofList sets).get? key = none :=
      Keyed.get?_ofList_eq_none fun entry hentry heq =>
        hnever (heq ▸ List.mem_map_of_mem hentry)
    rw [read_eq, hnone, Option.bind_none]
  size := Keyed.size_ofList sets
  increasing := Keyed.keys_increasing _
  keys _ := Keyed.mem_keys_ofList_iff
  entries _ _ := Keyed.mem_entries_ofList_iff

end MapBody

end Sluice
