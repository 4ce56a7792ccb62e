/-! # Finite maps with text keys

A `Keyed α` is a list of entries whose keys strictly increase in code point order, so each map has
one representation and two maps with the same look-ups are equal. Every map of the library that an
answer can list is of this type: bindings, message fields, directory properties, broker queues.
-/

namespace Sluice

universe u v

/-- A finite map from text to `α`, listed in increasing key order. -/
structure Keyed (α : Type u) where
  /-- The entries, in increasing key order. -/
  entries : List (String × α)
  /-- No key stands twice and none stands before a smaller one. -/
  ordered : entries.Pairwise (fun a b => a.1 < b.1)

namespace Keyed

variable {α : Type u} {β : Type v}

def findIn (key : String) : List (String × α) → Option α
  | [] => none
  | (k, x) :: rest => if k = key then some x else findIn key rest

/-- Put a value under `key`, in its place in the order, replacing an entry of the same key. -/
def insertInto (key : String) (value : α) : List (String × α) → List (String × α)
  | [] => [(key, value)]
  | (k, x) :: rest =>
      if key < k then (key, value) :: (k, x) :: rest
      else if key = k then (key, value) :: rest
      else (k, x) :: insertInto key value rest

theorem mem_insertInto {key : String} {value : α} {entry : String × α}
    {entries : List (String × α)} (h : entry ∈ insertInto key value entries) :
    entry = (key, value) ∨ entry ∈ entries := by
  induction entries with
  | nil => simpa [insertInto] using h
  | cons head rest ih =>
      obtain ⟨k, x⟩ := head
      rw [insertInto] at h
      split at h
      · simpa using h
      · split at h
        · rcases List.mem_cons.mp h with h | h
          · exact Or.inl h
          · exact Or.inr (List.mem_cons_of_mem _ h)
        · rcases List.mem_cons.mp h with h | h
          · exact Or.inr (h ▸ List.mem_cons_self)
          · exact (ih h).imp_right (List.mem_cons_of_mem _)

theorem ordered_insertInto (key : String) (value : α) {entries : List (String × α)}
    (h : entries.Pairwise (fun a b => a.1 < b.1)) :
    (insertInto key value entries).Pairwise (fun a b => a.1 < b.1) := by
  induction entries with
  | nil => simp [insertInto]
  | cons head rest ih =>
      obtain ⟨k, x⟩ := head
      obtain ⟨hhead, hrest⟩ := List.pairwise_cons.mp h
      rw [insertInto]
      split
      next hlt =>
        refine List.pairwise_cons.mpr ⟨?_, h⟩
        intro entry hmem
        rcases List.mem_cons.mp hmem with rfl | hmem
        · exact hlt
        · exact String.lt_trans hlt (hhead entry hmem)
      next hlt =>
        split
        next heq => exact heq ▸ List.pairwise_cons.mpr ⟨hhead, hrest⟩
        next hne =>
          refine List.pairwise_cons.mpr ⟨?_, ih hrest⟩
          intro entry hmem
          rcases mem_insertInto hmem with rfl | hmem
          · exact Std.lt_of_le_of_ne (String.not_lt.mp hlt) (Ne.symm hne)
          · exact hhead entry hmem

theorem findIn_insertInto (key other : String) (value : α) (entries : List (String × α)) :
    findIn other (insertInto key value entries) =
      if key = other then some value else findIn other entries := by
  induction entries with
  | nil => simp [insertInto, findIn]
  | cons head rest ih =>
      obtain ⟨k, x⟩ := head
      rw [insertInto]
      split
      · simp [findIn]
      · split
        next heq =>
          subst heq
          by_cases h : key = other <;> simp [findIn, h]
        next hne =>
          by_cases hk : k = other
          · simp [findIn, hk, show ¬ key = other from fun e => hne (e.trans hk.symm)]
          · simp [findIn, hk, ih]

theorem findIn_eq_none {key : String} {entries : List (String × α)}
    (h : ∀ entry ∈ entries, key < entry.1) : findIn key entries = none := by
  induction entries with
  | nil => rfl
  | cons head rest ih =>
      obtain ⟨k, x⟩ := head
      have hlt : key < k := h (k, x) List.mem_cons_self
      have hne : ¬ k = key := fun e => String.lt_irrefl key (e ▸ hlt)
      rw [findIn, if_neg hne]
      exact ih (fun entry hmem => h entry (List.mem_cons_of_mem _ hmem))

def empty : Keyed α := ⟨[], List.Pairwise.nil⟩

instance : EmptyCollection (Keyed α) := ⟨empty⟩

instance : Inhabited (Keyed α) := ⟨empty⟩

def get? (m : Keyed α) (key : String) : Option α := findIn key m.entries

/-- Put a value under `key`, replacing what stands there. -/
def insert (m : Keyed α) (key : String) (value : α) : Keyed α :=
  ⟨insertInto key value m.entries, ordered_insertInto key value m.ordered⟩

/-- Remove the entry under `key`, if there is one. -/
def erase (m : Keyed α) (key : String) : Keyed α :=
  ⟨m.entries.filter (fun entry => entry.1 != key), m.ordered.filter _⟩

/-- Apply `f` to the value under `key`, if there is one. -/
def modify (m : Keyed α) (key : String) (f : α → α) : Keyed α :=
  match m.get? key with
  | some value => m.insert key (f value)
  | none => m

/-- The entries of `entries` laid over `m`, one after the other: of two with one key the later
stays. -/
def insertAll (m : Keyed α) (entries : List (String × α)) : Keyed α :=
  entries.foldl (fun acc entry => acc.insert entry.1 entry.2) m

/-- The map of a list of entries, in which of two entries with one key the later stays. -/
def ofList (entries : List (String × α)) : Keyed α := insertAll empty entries

def keys (m : Keyed α) : List String := m.entries.map Prod.fst

def size (m : Keyed α) : Nat := m.entries.length

def isEmpty (m : Keyed α) : Bool := m.entries.isEmpty

def contains (m : Keyed α) (key : String) : Bool := (m.get? key).isSome

def map (f : α → β) (m : Keyed α) : Keyed β :=
  ⟨m.entries.map (fun entry => (entry.1, f entry.2)), by
    rw [List.pairwise_map]
    exact m.ordered⟩

/-- The map with the entries of `upper` laid over those of `lower`. -/
def overlay (lower upper : Keyed α) : Keyed α := lower.insertAll upper.entries

@[simp] theorem get?_empty (key : String) : (empty : Keyed α).get? key = none := rfl

@[simp] theorem get?_insert (m : Keyed α) (key other : String) (value : α) :
    (m.insert key value).get? other = if key = other then some value else m.get? other :=
  findIn_insertInto key other value m.entries

theorem findIn_filter_ne (key other : String) (entries : List (String × α)) :
    findIn other (entries.filter (fun entry => entry.1 != key)) =
      if key = other then none else findIn other entries := by
  induction entries with
  | nil => simp [findIn]
  | cons head rest ih =>
      obtain ⟨k, x⟩ := head
      by_cases hk : k = key
      · subst hk
        by_cases ho : k = other <;> simp_all [findIn]
      · by_cases ho : k = other
        · subst ho
          simp [findIn, hk, show ¬ key = k from fun e => hk e.symm]
        · simp [findIn, hk, ho, ih]

@[simp] theorem get?_erase (m : Keyed α) (key other : String) :
    (m.erase key).get? other = if key = other then none else m.get? other :=
  findIn_filter_ne key other m.entries

theorem findIn_map (f : α → β) (key : String) (entries : List (String × α)) :
    findIn key (entries.map (fun entry => (entry.1, f entry.2))) = (findIn key entries).map f := by
  induction entries with
  | nil => rfl
  | cons head rest ih =>
      obtain ⟨k, x⟩ := head
      by_cases hk : k = key <;> simp [findIn, hk, ih]

@[simp] theorem get?_map (f : α → β) (m : Keyed α) (key : String) :
    (m.map f).get? key = (m.get? key).map f :=
  findIn_map f key m.entries

theorem entries_ext {first second : List (String × α)}
    (hfirst : first.Pairwise (fun a b => a.1 < b.1))
    (hsecond : second.Pairwise (fun a b => a.1 < b.1))
    (h : ∀ key, findIn key first = findIn key second) : first = second := by
  induction first generalizing second with
  | nil =>
      cases second with
      | nil => rfl
      | cons head rest => simpa [findIn] using h head.1
  | cons head rest ih =>
      cases second with
      | nil => simpa [findIn] using h head.1
      | cons head' rest' =>
          obtain ⟨k, x⟩ := head
          obtain ⟨k', x'⟩ := head'
          obtain ⟨hhead, hrest⟩ := List.pairwise_cons.mp hfirst
          obtain ⟨hhead', hrest'⟩ := List.pairwise_cons.mp hsecond
          have hkey : k = k' := by
            by_cases hlt : k < k'
            · have hnone : findIn k ((k', x') :: rest') = none := by
                apply findIn_eq_none
                intro entry hmem
                rcases List.mem_cons.mp hmem with rfl | hmem
                · exact hlt
                · exact String.lt_trans hlt (hhead' entry hmem)
              have := h k
              rw [hnone] at this
              simp [findIn] at this
            · by_cases heq : k = k'
              · exact heq
              · have hgt : k' < k := Std.lt_of_le_of_ne (String.not_lt.mp hlt) (Ne.symm heq)
                have hnone : findIn k' ((k, x) :: rest) = none := by
                  apply findIn_eq_none
                  intro entry hmem
                  rcases List.mem_cons.mp hmem with rfl | hmem
                  · exact hgt
                  · exact String.lt_trans hgt (hhead entry hmem)
                have := h k'
                rw [hnone] at this
                simp [findIn] at this
          subst hkey
          have hvalue : x = x' := by simpa [findIn] using h k
          subst hvalue
          congr 1
          apply ih hrest hrest'
          intro key
          by_cases hk : k = key
          · subst hk
            rw [findIn_eq_none hhead, findIn_eq_none hhead']
          · simpa [findIn, hk] using h key

/-- Two maps are equal when they answer every key alike. -/
theorem ext_get? {first second : Keyed α} (h : ∀ key, first.get? key = second.get? key) :
    first = second := by
  have hentries := entries_ext first.ordered second.ordered h
  cases first
  cases second
  cases hentries
  rfl

instance [DecidableEq α] : DecidableEq (Keyed α) := fun a b =>
  if h : a.entries = b.entries then
    isTrue (by cases a; cases b; cases h; rfl)
  else
    isFalse (fun e => h (e ▸ rfl))

instance [Repr α] : Repr (Keyed α) := ⟨fun m p => reprPrec m.entries p⟩

end Keyed

end Sluice
