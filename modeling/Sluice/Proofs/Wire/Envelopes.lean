import Sluice.Proofs.Keyed
import Sluice.Proofs.Wire.Reading
import Sluice.Wire.Envelope

/-! # Envelopes are read back

Whatever stands behind it, the envelope at the front of a byte sequence is the one that was written
there. So no two envelopes share a form, and no form is the beginning of another.
-/

namespace Sluice

/-! ### Sizes

The sizes of what is held in memory can be counted in 64 bits; there are no messages but those. -/

namespace Field

/-- The size of a text or a byte sequence can be counted in 64 bits. -/
def Fits : Field → Prop
  | .string s => s.utf8ByteSize < Nat.pow 2 64
  | .bytes data => data.length < Nat.pow 2 64
  | _ => True

end Field

namespace Body

/-- The sizes of a body and of all that it holds can be counted in 64 bits. -/
def Fits : Body → Prop
  | .text s => s.utf8ByteSize < Nat.pow 2 64
  | .map fields =>
      fields.size < Nat.pow 2 64 ∧
        ∀ entry ∈ fields.entries, entry.1.utf8ByteSize < Nat.pow 2 64 ∧ entry.2.Fits
  | .object data => data.length < Nat.pow 2 64

end Body

namespace Envelope

/-- The sizes of all that an envelope holds can be counted in 64 bits. -/
structure Fits (e : Envelope) : Prop where
  correlationId : ∀ id, e.correlationId = some id → id.utf8ByteSize < Nat.pow 2 64
  body : e.body.Fits

end Envelope

/-! ### What is written is read back -/

open Wire

theorem Field.reads {f : Field} (h : f.Fits) : Field.decoder.Reads f.encode f := by
  unfold Field.decoder
  cases f with
  | string s => exact reads_tagged 0 (by decide) ((reads_decodeString h).map Field.string)
  | int n => exact reads_tagged 1 (by decide) (reads_int32 Field.int n)
  | long n => exact reads_tagged 2 (by decide) (reads_int64 Field.long n)
  | double x => exact reads_tagged 3 (by decide) ((reads_decodeDouble x).map Field.double)
  | float x => exact reads_tagged 4 (by decide) ((reads_decodeSingle x).map Field.float)
  | boolean b => exact reads_tagged 5 (by decide) ((reads_decodeBool b).map Field.boolean)
  | short n => exact reads_tagged 6 (by decide) (reads_int16 Field.short n)
  | byte n =>
      have hread := (reads_takeByte n.toUInt8).map fun b => Field.byte b.toInt8
      exact reads_tagged 7 (by decide) hread
  | char c => exact reads_tagged 8 (by decide) ((reads_decodeChar c).map Field.char)
  | bytes data => exact reads_tagged 9 (by decide) ((reads_decodeBytes h).map Field.bytes)

/-- An entry of a map is its key and its field. -/
theorem reads_entry {entry : String × Field} (hkey : entry.1.utf8ByteSize < Nat.pow 2 64)
    (hfield : entry.2.Fits) :
    Decoder.Reads (do return (← decodeString, ← Field.decoder))
      (encodeString entry.1 ++ entry.2.encode) entry :=
  (reads_decodeString hkey).bind ((Field.reads hfield).map fun field => (entry.1, field))

theorem Body.reads {b : Body} (h : b.Fits) : Body.decoder.Reads b.encode b := by
  unfold Body.decoder
  cases b with
  | text s => exact reads_tagged 0 (by decide) ((reads_decodeString h).map Body.text)
  | map fields =>
      obtain ⟨hsize, hentries⟩ := h
      have hitems := reads_takeItems fun entry hentry =>
        reads_entry (hentries entry hentry).1 (hentries entry hentry).2
      have hread := hitems.map fun entries => Body.map (Keyed.ofList entries)
      rw [Keyed.ofList_entries] at hread
      exact reads_tagged 1 (by decide) ((reads_decodeNat (.inr (.inr rfl)) hsize).bind hread)
  | object data => exact reads_tagged 2 (by decide) ((reads_decodeBytes h).map Body.object)

theorem DeliveryMode.reads (mode : DeliveryMode) : DeliveryMode.decoder.Reads mode.encode mode := by
  cases mode <;> exact fun _ => rfl

namespace Envelope

theorem reads {e : Envelope} (h : e.Fits) : decoder.Reads e.encode e := by
  obtain ⟨correlationId, priority, timeToLive, deliveryMode, body⟩ := e
  have hid : (decodeOption decodeString).Reads (encodeOption encodeString correlationId)
      correlationId := reads_decodeOption fun id hid => reads_decodeString (h.correlationId id hid)
  have htime : (decodeNat 8).Reads (encodeNat timeToLive.toNat) timeToLive.toNat :=
    reads_decodeNat (.inr (.inr rfl)) timeToLive.toNat_lt
  unfold decoder encode
  simp only [List.append_assoc]
  refine hid.bind ((reads_takeByte priority).bind (htime.bind ?_))
  refine (DeliveryMode.reads deliveryMode).bind ?_
  rw [UInt64.ofNat_toNat]
  exact (Body.reads h.body).map (Envelope.mk correlationId priority timeToLive deliveryMode)

/-- Whatever stands behind it, the form of an envelope is read as that envelope. So envelopes with
one form are the same, and the form of one is never a proper beginning of the form of another. -/
theorem ofBytes_encode_append {e e' : Envelope} (he : e.Fits) (he' : e'.Fits) (rest : Bytes) :
    ofBytes (e.encode ++ rest) = .ok e ∧
      (e.encode = e'.encode → e = e') ∧
      (e.encode <+: e'.encode → e.encode = e'.encode) := by
  have hinjective : e.encode <+: e'.encode → e = e' := (reads he).eq_of_append (reads he')
  refine ⟨(reads he).decode_append rest, ?_, fun hbytes => congrArg encode (hinjective hbytes)⟩
  intro hbytes
  exact hinjective (hbytes ▸ List.prefix_rfl)

theorem ofBytes_encode_append_map :
    let fields : MapBody := ⟨[("a", .char '€'), ("b", .short (-126))], by decide⟩
    let e : Envelope := ⟨some "id", 255, 65536, .nonPersistent, .map fields⟩
    let e' : Envelope := ⟨none, 251, 251, .persistent, .text "é"⟩
    e.Fits ∧ e'.Fits ∧
      ofBytes (e.encode ++ [7, 8]) = .ok e ∧
      (e.encode = e'.encode → e = e') ∧
      (e.encode <+: e'.encode → e.encode = e'.encode) := by
  intro fields e e'
  have he : e.Fits := by
    refine ⟨?_, by decide, ?_⟩
    · intro id hid
      obtain rfl := Option.some.inj hid
      decide
    · intro entry hentry
      rcases List.mem_cons.mp hentry with rfl | hentry
      · exact ⟨by decide, trivial⟩
      · obtain rfl := List.mem_singleton.mp hentry
        exact ⟨by decide, trivial⟩
  have he' : e'.Fits := by
    refine ⟨?_, ?_⟩
    · intro id hid
      cases hid
    · change "é".utf8ByteSize < _
      decide
  exact ⟨he, he', ofBytes_encode_append he he' [7, 8]⟩

end Envelope

end Sluice
