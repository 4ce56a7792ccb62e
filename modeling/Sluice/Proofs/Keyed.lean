import Mathlib.Data.List.Dedup
import Mathlib.Data.List.Flatten
import Mathlib.Data.List.Induction
import Mathlib.Data.List.Nodup
import Mathlib.Data.List.Perm.Subperm
import Sluice.Keyed

/-! # Maps and the lists that they are made of

Of the entries of a list that share a key, the last one stands in the map that is made of the list.
A map is made of its own entries, in whatever order they are listed.
-/

namespace Sluice.Keyed

variable {α : Type} {entries : List (String × α)} {key : String} {x : α}

/-! ### Entries and look-ups -/

theorem findIn_of_mem (hordered : entries.Pairwise (fun a b => a.1 < b.1)) {entry : String × α}
    (hentry : entry ∈ entries) : findIn entry.1 entries = some entry.2 := by
  induction entries with
  | nil => cases hentry
  | cons head rest ih =>
      obtain ⟨hhead, hrest⟩ := List.pairwise_cons.mp hordered
      rcases List.mem_cons.mp hentry with rfl | hentry
      · exact if_pos rfl
      · have hne : head.1 ≠ entry.1 := fun heq => String.lt_irrefl _ (heq ▸ hhead entry hentry)
        exact (if_neg hne).trans (ih hrest hentry)

theorem mem_of_findIn (h : findIn key entries = some x) : (key, x) ∈ entries := by
  induction entries with
  | nil => cases h
  | cons head rest ih =>
      obtain ⟨k, y⟩ := head
      rw [findIn] at h
      split at h
      next hk => rw [hk, Option.some.inj h]; exact List.mem_cons_self
      next => exact List.mem_cons_of_mem _ (ih h)

theorem mem_entries_iff {m : Keyed α} : (key, x) ∈ m.entries ↔ m.get? key = some x :=
  ⟨findIn_of_mem m.ordered, mem_of_findIn⟩

theorem nodup_entries (m : Keyed α) : m.entries.Nodup := by
  refine m.ordered.imp ?_
  intro a b hlt heq
  exact String.lt_irrefl a.1 (heq ▸ hlt)

theorem entry_inj (m : Keyed α) {entry entry' : String × α} (h : entry ∈ m.entries)
    (h' : entry' ∈ m.entries) (hkey : entry.1 = entry'.1) : entry = entry' := by
  have hvalue := mem_entries_iff.mp h
  rw [hkey, mem_entries_iff.mp h'] at hvalue
  exact Prod.ext hkey (Option.some.inj hvalue).symm

@[simp] theorem get?_modify (m : Keyed α) (key other : String) (f : α → α) :
    (m.modify key f).get? other = if key = other then (m.get? other).map f else m.get? other := by
  unfold modify
  cases hkey : m.get? key with
  | none =>
      by_cases heq : key = other
      · subst heq
        simp [hkey]
      · simp [heq]
  | some value =>
      by_cases heq : key = other
      · subst heq
        simp [hkey]
      · simp [heq]

theorem isEmpty_iff {m : Keyed α} : m.isEmpty = true ↔ m = empty := by
  rw [isEmpty, List.isEmpty_iff]
  refine ⟨fun h => ?_, fun h => h ▸ rfl⟩
  cases m
  cases h
  rfl

/-! ### The last entry of a key stays -/

/-- What is laid over a map hides what stood there. -/
theorem get?_insertAll_or (m : Keyed α) (entries : List (String × α)) (key : String) :
    (m.insertAll entries).get? key = ((ofList entries).get? key).or (m.get? key) := by
  induction entries generalizing m with
  | nil => rfl
  | cons head rest ih =>
      obtain ⟨k, x⟩ := head
      change ((m.insert k x).insertAll rest).get? key =
        ((insertAll (empty.insert k x) rest).get? key).or (m.get? key)
      rw [ih (m.insert k x), ih (empty.insert k x), get?_insert, get?_insert, get?_empty,
        Option.or_assoc]
      split <;> rfl

theorem get?_ofList_nil (key : String) : (ofList [] : Keyed α).get? key = none := rfl

theorem get?_ofList_append (first second : List (String × α)) (key : String) :
    (ofList (first ++ second)).get? key =
      ((ofList second).get? key).or ((ofList first).get? key) := by
  rw [ofList, insertAll, List.foldl_append, ← insertAll, ← insertAll, get?_insertAll_or]
  rfl

theorem get?_ofList_cons (k : String) (x : α) (rest : List (String × α)) (key : String) :
    (ofList ((k, x) :: rest)).get? key =
      ((ofList rest).get? key).or (if key = k then some x else none) := by
  rw [← List.singleton_append, get?_ofList_append]
  congr 1
  change (empty.insert k x).get? key = _
  rw [get?_insert]
  simp only [eq_comm, get?_empty]

theorem get?_ofList_filterMap_cons (k : String) (x? : Option α) (rest : List (String × Option α))
    (key : String) :
    (ofList (((k, x?) :: rest).filterMap fun entry => entry.2.map fun x => (entry.1, x))).get? key =
      ((ofList (rest.filterMap fun entry => entry.2.map fun x => (entry.1, x))).get? key).or
        (if key = k then x? else none) := by
  cases x? with
  | none => simp
  | some x => exact get?_ofList_cons k x _ key

/-- No later entry has the key of this one. -/
def IsLast (entries : List (String × α)) (key : String) (x : α) : Prop :=
  ∃ earlier later, entries = earlier ++ (key, x) :: later ∧ ∀ other ∈ later, other.1 ≠ key

theorem IsLast.mem (h : IsLast entries key x) : (key, x) ∈ entries := by
  obtain ⟨earlier, later, rfl, -⟩ := h
  exact List.mem_append_right _ List.mem_cons_self

theorem get?_ofList_eq_none (h : ∀ other ∈ entries, other.1 ≠ key) :
    (ofList entries).get? key = none := by
  induction entries with
  | nil => rfl
  | cons head rest ih =>
      obtain ⟨hhead, hrest⟩ := List.forall_mem_cons.mp h
      rw [get?_ofList_cons, ih hrest, if_neg hhead.symm]
      rfl

theorem isLast_of_get?_ofList (h : (ofList entries).get? key = some x) : IsLast entries key x := by
  -- from the end: the entry there has the key and hides the others, or it does not matter
  induction entries using List.reverseRecOn with
  | nil => cases h
  | append_singleton earlier head ih =>
      obtain ⟨k, y⟩ := head
      rw [get?_ofList_append, get?_ofList_cons] at h
      by_cases hk : key = k
      · subst hk
        rw [if_pos rfl] at h
        exact ⟨earlier, [], by rw [← Option.some.inj h], nofun⟩
      · rw [if_neg hk] at h
        obtain ⟨first, later, rfl, hlater⟩ := ih h
        refine ⟨first, later ++ [(k, y)], by simp, ?_⟩
        intro other hother
        rcases List.mem_append.mp hother with hother | hother
        · exact hlater other hother
        · rw [List.mem_singleton.mp hother]
          exact Ne.symm hk

theorem get?_ofList_eq_some_iff : (ofList entries).get? key = some x ↔ IsLast entries key x := by
  refine ⟨isLast_of_get?_ofList, ?_⟩
  rintro ⟨earlier, later, rfl, hlater⟩
  rw [get?_ofList_append, get?_ofList_cons, get?_ofList_eq_none hlater, if_pos rfl]
  rfl

theorem exists_isLast (h : key ∈ entries.map Prod.fst) : ∃ x, IsLast entries key x := by
  cases hkey : (ofList entries).get? key with
  | some x => exact ⟨x, get?_ofList_eq_some_iff.mp hkey⟩
  | none =>
      -- the entry that is said to be there would be hidden by nothing
      induction entries with
      | nil => cases h
      | cons head rest ih =>
          obtain ⟨k, y⟩ := head
          rw [get?_ofList_cons, Option.or_eq_none_iff] at hkey
          obtain ⟨hrest, hhead⟩ := hkey
          rcases List.mem_cons.mp h with rfl | hmem
          · rw [if_pos rfl] at hhead
            cases hhead
          · obtain ⟨x, earlier, later, rfl, hlater⟩ := ih hmem hrest
            exact ⟨x, (k, y) :: earlier, later, rfl, hlater⟩

/-- A list that has just the entries of a partial function makes a map of it. -/
theorem get?_ofList_of_mem_iff {f : String → Option α}
    (h : ∀ key x, (key, x) ∈ entries ↔ f key = some x) (key : String) :
    (ofList entries).get? key = f key := by
  apply Option.ext
  intro x
  rw [get?_ofList_eq_some_iff, ← h]
  refine ⟨IsLast.mem, fun hmem => ?_⟩
  obtain ⟨y, hlast⟩ := exists_isLast (List.mem_map_of_mem (f := Prod.fst) hmem)
  have hsame := ((h key x).mp hmem).symm.trans ((h key y).mp hlast.mem)
  rw [Option.some.inj hsame]
  exact hlast

theorem mem_entries_ofList_iff : (key, x) ∈ (ofList entries).entries ↔ IsLast entries key x :=
  mem_entries_iff.trans get?_ofList_eq_some_iff

/-- A map is made of a list if it has the last of the entries of each key. -/
theorem eq_ofList {m : Keyed α} (h : ∀ key x, m.get? key = some x ↔ IsLast entries key x) :
    m = ofList entries := by
  apply ext_get?
  intro key
  apply Option.ext
  intro x
  rw [h, get?_ofList_eq_some_iff]

/-- The entries of a map stand, in some order, among those that it is made of. -/
theorem entries_ofList_subperm (entries : List (String × α)) :
    (ofList entries).entries.Subperm entries := by
  apply (nodup_entries _).subperm
  intro entry hentry
  exact (isLast_of_get?_ofList (mem_entries_iff.mp hentry)).mem

/-- Entries that are hidden by later ones take up no room any more. -/
theorem length_entries_ofList_le (written : List (String × α)) :
    (ofList written).entries.length ≤ written.length :=
  (entries_ofList_subperm written).length_le

theorem length_flatMap_ofList_le {β : Type} (written : List (String × α))
    (f : String × α → List β) :
    ((ofList written).entries.flatMap f).length ≤ (written.flatMap f).length := by
  obtain ⟨kept, hperm, hsub⟩ := entries_ofList_subperm written
  rw [← (hperm.flatMap_right f).length_eq]
  exact (hsub.flatMap f).length_le

/-! ### Keys -/

theorem keys_increasing (m : Keyed α) : m.keys.Pairwise (· < ·) := List.pairwise_map.mpr m.ordered

theorem nodup_keys (m : Keyed α) : m.keys.Nodup := by
  refine m.keys_increasing.imp ?_
  intro a b hlt heq
  exact String.lt_irrefl a (heq ▸ hlt)

theorem mem_keys_ofList_iff : key ∈ (ofList entries).keys ↔ key ∈ entries.map Prod.fst := by
  constructor
  · intro h
    obtain ⟨⟨k, x⟩, hentry, rfl⟩ := List.mem_map.mp h
    exact List.mem_map_of_mem (mem_entries_ofList_iff.mp hentry).mem
  · intro h
    obtain ⟨x, hlast⟩ := exists_isLast h
    exact List.mem_map_of_mem (mem_entries_ofList_iff.mpr hlast)

/-- A map has as many entries as the list has different keys. -/
theorem size_ofList (entries : List (String × α)) :
    (ofList entries).size = (entries.map Prod.fst).dedup.length := by
  have hperm : (ofList entries).keys.Perm (entries.map Prod.fst).dedup := by
    rw [List.perm_ext_iff_of_nodup (nodup_keys _) (List.nodup_dedup _)]
    intro key
    rw [mem_keys_ofList_iff, List.mem_dedup]
  rw [← hperm.length_eq, keys, List.length_map, size]

/-! ### Maps are made of their entries -/

theorem ofList_entries (m : Keyed α) : ofList m.entries = m := by
  symm
  apply eq_ofList
  intro key x
  refine ⟨fun h => ?_, fun h => mem_entries_iff.mp h.mem⟩
  obtain ⟨earlier, later, hentries⟩ := List.append_of_mem (mem_entries_iff.mpr h)
  have hordered := m.ordered
  rw [hentries] at hordered
  obtain ⟨hlater, -⟩ := List.pairwise_cons.mp (List.pairwise_append.mp hordered).2.1
  refine ⟨earlier, later, hentries, ?_⟩
  intro other hother heq
  exact String.lt_irrefl key (heq ▸ hlater other hother)

theorem get?_overlay (lower upper : Keyed α) (key : String) :
    (lower.overlay upper).get? key = (upper.get? key).or (lower.get? key) := by
  rw [overlay, get?_insertAll_or, ofList_entries]

theorem entries_ofList (hordered : entries.Pairwise (fun a b => a.1 < b.1)) :
    (ofList entries).entries = entries :=
  congrArg Keyed.entries (ofList_entries ⟨entries, hordered⟩)

theorem insert_comm {first second : String × α} (h : first.1 = second.1 → first = second)
    (m : Keyed α) :
    (m.insert first.1 first.2).insert second.1 second.2 =
      (m.insert second.1 second.2).insert first.1 first.2 := by
  by_cases heq : first.1 = second.1
  · rw [h heq]
  · apply ext_get?
    intro key
    simp only [get?_insert]
    split_ifs with h₁ h₂
    · exact absurd (h₂.trans h₁.symm) heq
    all_goals rfl

/-- The order in which the entries of a map are laid over each other does not matter. -/
theorem ofList_of_perm {m : Keyed α} {entries : List (String × α)} (h : entries.Perm m.entries) :
    ofList entries = m := by
  have hfold : ofList m.entries = ofList entries := by
    refine h.symm.foldl_eq' ?_ empty
    intro first hfirst second hsecond acc
    exact insert_comm (m.entry_inj hfirst hsecond) acc
  rw [← hfold, ofList_entries]

end Sluice.Keyed
