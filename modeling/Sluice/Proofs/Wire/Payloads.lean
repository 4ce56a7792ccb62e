import Sluice.Proofs.Wire.Envelopes
import Sluice.Wire.Payload

/-! # Payloads are read back

A payload is a tree of nodes. Each node takes up a byte at least, so a decoder that goes as deep as
there are bytes finds all of them, and what was written is read as the same tree.
-/

namespace Sluice

namespace Payload

/-! ### Nodes -/

mutual

/-- A payload and all that stand inside it, each before those inside it. -/
def nodes : Payload → List Payload
  | .list items => .list items :: nodesOfItems items
  | .map entries => .map entries :: nodesOfEntries entries
  | p => [p]

/-- The nodes of the items of a list. -/
def nodesOfItems : List Payload → List Payload
  | [] => []
  | p :: rest => p.nodes ++ nodesOfItems rest

/-- The nodes of the entries of a map. -/
def nodesOfEntries : List (String × Payload) → List Payload
  | [] => []
  | (_, p) :: rest => p.nodes ++ nodesOfEntries rest

end

theorem nodesOfItems_eq (items : List Payload) : nodesOfItems items = items.flatMap nodes := by
  induction items with
  | nil => rfl
  | cons p rest ih => rw [nodesOfItems, List.flatMap_cons, ih]

theorem nodesOfEntries_eq (entries : List (String × Payload)) :
    nodesOfEntries entries = (entries.map Prod.snd).flatMap nodes := by
  induction entries with
  | nil => rfl
  | cons entry rest ih => rw [nodesOfEntries, List.map_cons, List.flatMap_cons, ih]

theorem self_mem_nodes (p : Payload) : p ∈ p.nodes := by
  cases p <;> exact List.mem_cons_self

theorem encodeItems_eq (items : List Payload) : encodeItems items = items.flatMap encode := by
  induction items with
  | nil => rfl
  | cons p rest ih => rw [encodeItems, List.flatMap_cons, ih]

theorem encodeEntries_eq (entries : List (String × Payload)) :
    encodeEntries entries =
      entries.flatMap fun entry => Wire.encodeString entry.1 ++ entry.2.encode := by
  induction entries with
  | nil => rfl
  | cons entry rest ih => rw [encodeEntries, List.flatMap_cons, ih]

theorem orderedItems_iff (items : List Payload) : OrderedItems items ↔ ∀ p ∈ items, p.Ordered := by
  induction items with
  | nil => simp [OrderedItems]
  | cons p rest ih => simp [OrderedItems, ih]

theorem orderedEntries_iff (entries : List (String × Payload)) :
    OrderedEntries entries ↔ ∀ p ∈ entries.map Prod.snd, p.Ordered := by
  induction entries with
  | nil => simp [OrderedEntries]
  | cons entry rest ih => simp [OrderedEntries, ih]

/-! ### Sizes -/

/-- The sizes of a node, without those of the nodes inside it, can be counted in 64 bits. -/
def FitsAlone : Payload → Prop
  | .string s => s.utf8ByteSize < Nat.pow 2 64
  | .bytes data => data.length < Nat.pow 2 64
  | .list items => items.length < Nat.pow 2 64
  | .map entries =>
      entries.length < Nat.pow 2 64 ∧ ∀ entry ∈ entries, entry.1.utf8ByteSize < Nat.pow 2 64
  | .object typeName data => typeName.utf8ByteSize < Nat.pow 2 64 ∧ data.length < Nat.pow 2 64
  | _ => True

/-- The sizes of all that a payload holds can be counted in 64 bits. -/
def Fits (p : Payload) : Prop := ∀ q ∈ p.nodes, q.FitsAlone

theorem Fits.alone {p : Payload} (h : p.Fits) : p.FitsAlone := h p p.self_mem_nodes

theorem Fits.item {items : List Payload} (h : (Payload.list items).Fits) {p : Payload}
    (hp : p ∈ items) : p.Fits := by
  intro q hq
  refine h q (List.mem_cons_of_mem _ ?_)
  rw [nodesOfItems_eq]
  exact List.mem_flatMap.mpr ⟨p, hp, hq⟩

theorem Fits.entry {entries : List (String × Payload)} (h : (Payload.map entries).Fits)
    {entry : String × Payload} (hentry : entry ∈ entries) : entry.2.Fits := by
  intro q hq
  refine h q (List.mem_cons_of_mem _ ?_)
  rw [nodesOfEntries_eq]
  exact List.mem_flatMap.mpr ⟨entry.2, List.mem_map_of_mem hentry, hq⟩

/-! ### What is written is read back -/

open Wire

theorem length_encode_pos (p : Payload) : 0 < p.encode.length := by
  cases p <;> exact Nat.zero_lt_succ _

theorem length_le_flatMap {α : Type} (f : α → Bytes) {xs : List α} {x : α} (h : x ∈ xs) :
    (f x).length ≤ (xs.flatMap f).length :=
  (List.sublist_flatten_of_mem (List.mem_map_of_mem h)).length_le

theorem length_encode_item {items : List Payload} {p : Payload} (h : p ∈ items) :
    p.encode.length < (Payload.list items).encode.length := by
  have hle : p.encode.length ≤ (items.flatMap encode).length := length_le_flatMap encode h
  change _ < (10 :: (encodeNat items.length ++ encodeItems items)).length
  rw [List.length_cons, List.length_append, encodeItems_eq]
  omega

theorem length_encode_entry {entries : List (String × Payload)} {entry : String × Payload}
    (h : entry ∈ entries) : entry.2.encode.length < (Payload.map entries).encode.length := by
  have hle : (encodeString entry.1 ++ entry.2.encode).length ≤
      (entries.flatMap fun entry => encodeString entry.1 ++ entry.2.encode).length :=
    length_le_flatMap (fun entry : String × Payload => encodeString entry.1 ++ entry.2.encode) h
  change _ < (11 :: (encodeNat entries.length ++ encodeEntries entries)).length
  rw [List.length_append] at hle
  rw [List.length_cons, List.length_append, encodeEntries_eq]
  omega

theorem reads_decodeWithin {depth : Nat} {p : Payload} (hordered : p.Ordered) (hfits : p.Fits)
    (hdepth : p.encode.length ≤ depth) : (decodeWithin depth).Reads p.encode p := by
  -- on the depth: what stands inside a payload has a shorter form
  induction depth generalizing p with
  | zero => exact absurd p.length_encode_pos (by omega)
  | succ depth ih =>
      have halone := hfits.alone
      unfold decodeWithin
      cases p with
      | string s => exact reads_tagged 0 (by decide) ((reads_decodeString halone).map Payload.string)
      | int n => exact reads_tagged 1 (by decide) (reads_int32 Payload.int n)
      | long n => exact reads_tagged 2 (by decide) (reads_int64 Payload.long n)
      | double x => exact reads_tagged 3 (by decide) ((reads_decodeDouble x).map Payload.double)
      | float x => exact reads_tagged 4 (by decide) ((reads_decodeSingle x).map Payload.float)
      | boolean b => exact reads_tagged 5 (by decide) ((reads_decodeBool b).map Payload.boolean)
      | short n => exact reads_tagged 6 (by decide) (reads_int16 Payload.short n)
      | byte n =>
          have hread := (reads_takeByte n.toUInt8).map fun b => Payload.byte b.toInt8
          exact reads_tagged 7 (by decide) hread
      | char c => exact reads_tagged 8 (by decide) ((reads_decodeChar c).map Payload.char)
      | bytes data => exact reads_tagged 9 (by decide) ((reads_decodeBytes halone).map Payload.bytes)
      | list items =>
          have hitems : ∀ p ∈ items, (decodeWithin depth).Reads p.encode p := by
            intro p hp
            have hlt := length_encode_item hp
            exact ih ((orderedItems_iff items).mp hordered p hp) (hfits.item hp) (by omega)
          have hread := (reads_takeItems hitems).map Payload.list
          rw [← encodeItems_eq] at hread
          exact reads_tagged 10 (by decide) ((reads_decodeNat (.inr (.inr rfl)) halone).bind hread)
      | map entries =>
          obtain ⟨hpairwise, hinner⟩ := hordered
          have hentries : ∀ entry ∈ entries,
              Decoder.Reads (do return (← decodeString, ← decodeWithin depth))
                (encodeString entry.1 ++ entry.2.encode) entry := by
            intro entry hentry
            have hlt := length_encode_entry hentry
            have hmem : entry.2 ∈ entries.map Prod.snd := List.mem_map_of_mem hentry
            have hpayload := ih ((orderedEntries_iff entries).mp hinner entry.2 hmem)
              (hfits.entry hentry) (by omega)
            exact (reads_decodeString (halone.2 entry hentry)).bind
              (hpayload.map fun p => (entry.1, p))
          have hread := (reads_takeItems hentries).map fun found =>
            Payload.map (Keyed.ofList found).entries
          rw [← encodeEntries_eq, Keyed.ofList_entries ⟨entries, hpairwise⟩] at hread
          exact reads_tagged 11 (by decide)
            ((reads_decodeNat (.inr (.inr rfl)) halone.1).bind hread)
      | object typeName data =>
          exact reads_tagged 12 (by decide) ((reads_decodeString halone.1).bind
            ((reads_decodeBytes halone.2).map fun data => Payload.object typeName data))

theorem reads {p : Payload} (hordered : p.Ordered) (hfits : p.Fits) :
    decoder.Reads p.encode p := by
  intro rest
  have hdepth : p.encode.length ≤ (p.encode ++ rest).length + 1 := by
    rw [List.length_append]
    omega
  exact reads_decodeWithin hordered hfits hdepth rest

end Payload

end Sluice
