import Sluice.Proofs.Wire.EnvelopeForms
import Sluice.Proofs.Wire.Payloads

/-! # What is read can be written no longer

The bytes that are read as an envelope or as a payload begin with one of its forms, and whatever
begins so is read as it. A form may spend more bytes than it has to on a number or on an entry that
does not count, at every depth. The form that is written spends no byte more than any other, and it
is read as the same.
-/

namespace Sluice

open Wire Decoder

namespace Payload

/-- The payload that holds what a field holds. -/
def ofField : Field → Payload
  | .string s => .string s
  | .int n => .int n
  | .long n => .long n
  | .double x => .double x
  | .float x => .float x
  | .boolean b => .boolean b
  | .short n => .short n
  | .byte n => .byte n
  | .char c => .char c
  | .bytes data => .bytes data

/-- The forms of a payload: those of a field, or a form of the tag of its kind and forms of what it
holds. -/
inductive Form : Bytes → Payload → Prop
  | field {form : Bytes} {f : Field} (scalar : Field.Form form f) : Form form (ofField f)
  | list {tag count forms : Bytes} {items : List Payload} (tagged : NumberForm 4 tag 10)
      (counted : NumberForm 8 count items.length) (inner : ItemForms Form forms items) :
      Form (tag ++ (count ++ forms)) (.list items)
  | map {tag form : Bytes} {m : Keyed Payload} (tagged : NumberForm 4 tag 11)
      (inner : MapForm Form form m) : Form (tag ++ form) (.map m.entries)
  | object {tag front form data : Bytes} {typeName : String} (tagged : NumberForm 4 tag 12)
      (name : TextForm front typeName) (contents : BytesForm form data) :
      Form (tag ++ (front ++ form)) (.object typeName data)

theorem finds_decodeWithin (depth : Nat) : (decodeWithin depth).Finds Form := by
  -- on the depth: lists and maps are found in what is decoded within one less
  induction depth with
  | zero => exact .fail
  | succ depth ih =>
      apply (finds_decodeNat 4).bind
      intro number tag htag
      split
      next => exact finds_decodeString.map fun _ _ h => .field (.string htag h)
      next => exact (finds_decodeInt 4).map fun _ _ h => .field (.int htag h.int32)
      next => exact (finds_decodeInt 8).map fun _ _ h => .field (.long htag h.int64)
      next => exact finds_decodeDouble.map fun _ _ h => h ▸ .field (.double htag)
      next => exact finds_decodeSingle.map fun _ _ h => h ▸ .field (.float htag)
      next => exact finds_decodeBool.map fun _ _ h => h ▸ .field (.boolean htag)
      next => exact (finds_decodeInt 2).map fun _ _ h => .field (.short htag h.int16)
      next => exact finds_takeByte.map fun _ _ h => h ▸ .field (.byte htag)
      next => exact finds_decodeChar.map fun _ _ h => h ▸ .field (.char htag)
      next => exact finds_decodeBytes.map fun _ _ h => .field (.bytes htag h)
      next =>
        apply (finds_decodeNat 8).bind
        intro number count hcount
        apply (finds_takeItems ih number).map
        rintro items forms ⟨rfl, hforms⟩
        exact .list htag hcount hforms
      next => exact finds_map (fun m => Payload.map m.entries) ih fun _ _ h => .map htag h
      next =>
        apply finds_decodeString.bind
        intro typeName front hname
        exact finds_decodeBytes.map fun _ _ h => .object htag hname h
      next => exact .fail

theorem finds : decoder.Finds Form where
  form hok := (finds_decodeWithin _).form hok

/-- What is read is in order, its sizes can be counted, and it can be written no longer than it
stands there. -/
structure IsWithin (form : Bytes) (p : Payload) : Prop where
  ordered : p.Ordered
  fits : p.Fits
  length_le : p.encode.length ≤ form.length

theorem fits_list {items : List Payload} (hsize : items.length < Nat.pow 2 64)
    (hitems : ∀ p ∈ items, p.Fits) : (Payload.list items).Fits := by
  intro q hq
  rcases List.mem_cons.mp hq with rfl | hq
  · exact hsize
  · rw [nodesOfItems_eq] at hq
    obtain ⟨p, hp, hq⟩ := List.mem_flatMap.mp hq
    exact hitems p hp q hq

theorem fits_map {entries : List (String × Payload)} (hsize : entries.length < Nat.pow 2 64)
    (hentries : ∀ entry ∈ entries, entry.1.utf8ByteSize < Nat.pow 2 64 ∧ entry.2.Fits) :
    (Payload.map entries).Fits := by
  intro q hq
  rcases List.mem_cons.mp hq with rfl | hq
  · exact ⟨hsize, fun entry hentry => (hentries entry hentry).1⟩
  · rw [nodesOfEntries_eq, List.flatMap_map] at hq
    obtain ⟨entry, hentry, hq⟩ := List.mem_flatMap.mp hq
    exact (hentries entry hentry).2 q hq

theorem isWithin_ofField {form : Bytes} {f : Field} (h : Field.Form form f) :
    IsWithin form (ofField f) := by
  have hfits := h.fits
  have hle := h.length_le
  cases f <;>
  · constructor
    · trivial
    · intro q hq
      obtain rfl := List.mem_singleton.mp hq
      exact hfits
    · exact hle

section Inside

variable {tag front count form forms data : Bytes}

theorem isWithin_list {items : List Payload} (htag : NumberForm 4 tag 10)
    (hcount : NumberForm 8 count items.length) (h : ItemForms Form forms items)
    (hinner : ∀ inner p, Form inner p → inner.length ≤ forms.length → IsWithin inner p) :
    IsWithin (tag ++ (count ++ forms)) (.list items) := by
  have hitem : ∀ p ∈ items, ∃ inner, IsWithin inner p := by
    intro p hp
    obtain ⟨inner, hform, hle⟩ := h.of_mem hp
    exact ⟨inner, hinner inner p hform hle⟩
  constructor
  · rw [Ordered, orderedItems_iff]
    intro p hp
    obtain ⟨inner, hwithin⟩ := hitem p hp
    exact hwithin.ordered
  · apply fits_list (hcount.lt (by decide))
    intro p hp
    obtain ⟨inner, hwithin⟩ := hitem p hp
    exact hwithin.fits
  · have hitems := h.length_le encode fun inner p hform hle => (hinner inner p hform hle).length_le
    rw [← encodeItems_eq] at hitems
    apply length_tagged htag _ 10
    rw [List.length_append, List.length_append]
    exact Nat.add_le_add hcount.length_le hitems

theorem isWithin_map {m : Keyed Payload} (htag : NumberForm 4 tag 11) (h : MapForm Form form m)
    (hinner : ∀ inner p, Form inner p → inner.length ≤ form.length → IsWithin inner p) :
    IsWithin (tag ++ form) (.map m.entries) := by
  have hentry : ∀ entry ∈ m.entries, entry.1.utf8ByteSize < Nat.pow 2 64 ∧
      ∃ inner, IsWithin inner entry.2 := by
    intro entry hentry
    obtain ⟨hkey, inner, hform, hle⟩ := h.of_mem hentry
    exact ⟨hkey, inner, hinner inner entry.2 hform hle⟩
  constructor
  · refine ⟨m.ordered, ?_⟩
    rw [orderedEntries_iff]
    intro p hp
    obtain ⟨entry, hmem, rfl⟩ := List.mem_map.mp hp
    obtain ⟨-, inner, hwithin⟩ := hentry entry hmem
    exact hwithin.ordered
  · apply fits_map h.size_lt
    intro entry hmem
    obtain ⟨hkey, inner, hwithin⟩ := hentry entry hmem
    exact ⟨hkey, hwithin.fits⟩
  · have hentries := h.length_le encode fun inner p hform hle =>
      (hinner inner p hform hle).length_le
    rw [← encodeEntries_eq] at hentries
    exact length_tagged htag hentries 11

theorem isWithin_object {typeName : String} (htag : NumberForm 4 tag 12)
    (hname : TextForm front typeName) (h : BytesForm form data) :
    IsWithin (tag ++ (front ++ form)) (.object typeName data) := by
  constructor
  · trivial
  · intro q hq
    obtain rfl := List.mem_singleton.mp hq
    exact ⟨hname.lt, h.lt⟩
  · apply length_tagged htag _ 12
    rw [List.length_append, List.length_append]
    exact Nat.add_le_add hname.length_le h.length_le

end Inside

theorem Form.isWithin {form : Bytes} {p : Payload} (h : Form form p) : IsWithin form p := by
  -- on the length of the form: the forms inside it are shorter by the tag
  induction hlength : form.length using Nat.strongRecOn generalizing form p with
  | ind n ih =>
      subst hlength
      cases h with
      | field h => exact isWithin_ofField h
      | list htag hcount h =>
          apply isWithin_list htag hcount h
          intro inner q hform hle
          have hpos := htag.length_pos
          simp only [List.length_append] at ih
          exact ih _ (by omega) hform rfl
      | map htag h =>
          apply isWithin_map htag h
          intro inner q hform hle
          have hpos := htag.length_pos
          simp only [List.length_append] at ih
          exact ih _ (by omega) hform rfl
      | object htag hname h => exact isWithin_object htag hname h

namespace Form

variable {form : Bytes} {p : Payload}

theorem length_pos (h : Form form p) : 0 < form.length :=
  Nat.lt_of_lt_of_le p.length_encode_pos h.isWithin.length_le

theorem reads_decodeWithin {depth : Nat} (h : Form form p) (hdepth : form.length ≤ depth) :
    (decodeWithin depth).Reads form p := by
  -- on the depth: the forms inside a form are shorter by the tag
  induction depth generalizing form p with
  | zero => exact absurd h.length_pos (by omega)
  | succ depth ih =>
      unfold decodeWithin
      cases h with
      | field h =>
          cases h with
          | string htag h => exact htag.reads.bind (h.reads.map Payload.string)
          | int htag h => exact htag.reads.bind (h.reads_int32 Payload.int)
          | long htag h => exact htag.reads.bind (h.reads_int64 Payload.long)
          | double htag => exact htag.reads.bind ((reads_decodeDouble _).map Payload.double)
          | float htag => exact htag.reads.bind ((reads_decodeSingle _).map Payload.float)
          | boolean htag => exact htag.reads.bind ((reads_decodeBool _).map Payload.boolean)
          | short htag h => exact htag.reads.bind (h.reads_int16 Payload.short)
          | byte htag =>
              exact htag.reads.bind ((reads_takeByte _).map fun b => Payload.byte b.toInt8)
          | char htag => exact htag.reads.bind ((reads_decodeChar _).map Payload.char)
          | bytes htag h => exact htag.reads.bind (h.reads.map Payload.bytes)
      | list htag hcount h =>
          have hpos := htag.length_pos
          simp only [List.length_append] at hdepth
          have hitems := h.reads fun inner q hinner hle => ih hinner (by omega)
          exact htag.reads.bind (hcount.reads.bind (hitems.map Payload.list))
      | map htag h =>
          have hpos := htag.length_pos
          simp only [List.length_append] at hdepth
          have hmap := h.reads (fun m => Payload.map m.entries) fun inner q hinner hle =>
            ih hinner (by omega)
          exact htag.reads.bind hmap
      | object htag hname h =>
          exact htag.reads.bind
            (hname.reads.bind (h.reads.map fun data => Payload.object _ data))

theorem reads (h : Form form p) : decoder.Reads form p := by
  intro rest
  have hdepth : form.length ≤ (form ++ rest).length + 1 := by
    rw [List.length_append]
    omega
  exact h.reads_decodeWithin hdepth rest

end Form

end Payload

namespace Wire

/-- The bytes that are read as something begin with one of its forms, so of the entries of one key
the last one stays, and whatever begins so is read. What is read can be written with no more bytes,
and is then read as the same. -/
theorem decoding_canonical (b : Bytes) :
    ((∀ e, Envelope.ofBytes b = .ok e ↔ ∃ form rest, b = form ++ rest ∧ Envelope.Form form e) ∧
      ∀ e, Envelope.ofBytes b = .ok e →
        e.encode.length ≤ b.length ∧ Envelope.ofBytes e.encode = .ok e) ∧
    ((∀ p, Payload.ofBytes b = .ok p ↔ ∃ form rest, b = form ++ rest ∧ Payload.Form form p) ∧
      ∀ p, Payload.ofBytes b = .ok p →
        p.encode.length ≤ b.length ∧ Payload.ofBytes p.encode = .ok p) := by
  have henvelopes := Envelope.finds.decode_eq_ok_iff Envelope.Form.reads b
  have hpayloads := Payload.finds.decode_eq_ok_iff Payload.Form.reads b
  refine ⟨⟨henvelopes, fun e he => ?_⟩, ⟨hpayloads, fun p hp => ?_⟩⟩
  · obtain ⟨form, rest, rfl, hform⟩ := (henvelopes e).mp he
    have hle := hform.length_le
    rw [List.length_append]
    exact ⟨by omega, (Envelope.reads hform.fits).decode⟩
  · obtain ⟨form, rest, rfl, hform⟩ := (hpayloads p).mp hp
    have hwithin := hform.isWithin
    have hle := hwithin.length_le
    rw [List.length_append]
    exact ⟨by omega, (Payload.reads hwithin.ordered hwithin.fits).decode⟩

/-- Markers that are not needed, keys out of order, a key that stands twice, and a byte behind. -/
theorem decoding_canonical_repeated :
    let b : Bytes := [251, 11, 0, 251, 3, 0, 1, 98, 1, 2, 1, 97, 1, 4, 1, 98, 10, 0, 7]
    let p : Payload := .map [("a", .int 2), ("b", .list [])]
    let b' : Bytes := [0, 4, 251, 5, 0, 251, 1, 0, 1, 2, 1, 98, 1, 2, 1, 98, 5, 1, 7]
    let fields : MapBody := ⟨[("b", .boolean true)], List.pairwise_singleton ..⟩
    let e : Envelope := ⟨none, 4, 5, .nonPersistent, .map fields⟩
    (Payload.ofBytes b = .ok p ∧ p.encode.length ≤ b.length ∧ Payload.ofBytes p.encode = .ok p) ∧
      (Envelope.ofBytes b' = .ok e ∧ e.encode.length ≤ b'.length ∧
        Envelope.ofBytes e.encode = .ok e) := by
  intro b p b' fields e
  have hp : Payload.ofBytes b = .ok p := rfl
  have he : Envelope.ofBytes b' = .ok e := rfl
  exact ⟨⟨hp, (decoding_canonical b).2.2 p hp⟩, ⟨he, (decoding_canonical b').1.2 e he⟩⟩

end Wire

end Sluice
