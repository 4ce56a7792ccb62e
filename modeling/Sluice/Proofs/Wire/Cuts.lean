import Sluice.Proofs.Wire.Payloads

/-! # More bytes and fewer bytes

What a decoder comes to depends on no more bytes than it looks at. Unless it runs out of bytes, it
comes to the same whatever is put behind the input, be it a value or an error. So the form of a
value from which something is cut off at the end can only make it run out of bytes.
-/

namespace Sluice.Wire

/-- Unless `d` runs out of bytes, `d'` comes to the same on every longer input. -/
structure Decoder.Settles {α : Type} (d d' : Decoder α) : Prop where
  ok : ∀ {input : Bytes} {x : α} {rest : Bytes}, d input = .ok (x, rest) →
    ∀ more, d' (input ++ more) = .ok (x, rest ++ more)
  error : ∀ {input : Bytes} {e : DecodeError}, d input = .error e → e ≠ .unexpectedEnd →
    ∀ more, d' (input ++ more) = .error e

namespace Decoder.Settles

variable {α β : Type} {d d' : Decoder α}

theorem done (x : α) : Settles (pure x) (pure x) where
  ok h more := by
    obtain ⟨rfl, rfl⟩ := Prod.mk.inj (Except.ok.inj h)
    rfl
  error h := by cases h

theorem fail (e : DecodeError) : Settles (Decoder.fail e : Decoder α) (Decoder.fail e) where
  ok h := by cases h
  error h _ _ := h

theorem bind {f f' : α → Decoder β} (h : Settles d d') (hf : ∀ x, Settles (f x) (f' x)) :
    Settles (d >>= f) (d' >>= f') where
  ok {input y rest} hfound more := by
    change (d input >>= fun found => f found.1 found.2) = _ at hfound
    change (d' (input ++ more) >>= fun found => f' found.1 found.2) = _
    cases hd : d input with
    | error e => rw [hd] at hfound; cases hfound
    | ok found =>
        rw [hd] at hfound
        rw [h.ok hd more]
        exact (hf found.1).ok hfound more
  error {input e} hfault he more := by
    change (d input >>= fun found => f found.1 found.2) = _ at hfault
    change (d' (input ++ more) >>= fun found => f' found.1 found.2) = _
    cases hd : d input with
    | error e' =>
        rw [hd] at hfault
        obtain rfl : e' = e := Except.error.inj hfault
        rw [h.error hd he more]
        rfl
    | ok found =>
        rw [hd] at hfault
        rw [h.ok hd more]
        exact (hf found.1).error hfault he more

theorem map (f : α → β) (h : Settles d d') :
    Settles (d >>= fun x => pure (f x)) (d' >>= fun x => pure (f x)) :=
  h.bind fun x => done (f x)

/-- Whatever is cut off at the end of what is read, a decoder runs out of bytes. -/
theorem cut (h : Settles d d) {front back : Bytes} {x : α} (hreads : d.Reads (front ++ back) x)
    (hback : back ≠ []) : d front = .error .unexpectedEnd := by
  have hwhole : d (front ++ back) = .ok (x, []) := by simpa using hreads []
  cases hd : d front with
  | error e =>
      by_cases he : e = .unexpectedEnd
      · rw [he]
      · have herror := h.error hd he back
        rw [hwhole] at herror
        cases herror
  | ok found =>
      have hfound := h.ok hd back
      rw [hwhole] at hfound
      have hrest : [] = found.2 ++ back := (Prod.mk.inj (Except.ok.inj hfound)).2
      exact absurd (List.append_eq_nil_iff.mp hrest.symm).2 hback

theorem decode_ok (h : Settles d d) {b : Bytes} {x : α} (hok : d.decode b = .ok x) (t : Bytes) :
    d.decode (b ++ t) = .ok x := by
  unfold Decoder.decode at hok ⊢
  cases hd : d b with
  | error e => rw [hd] at hok; cases hok
  | ok found =>
      rw [hd] at hok
      rw [h.ok hd t]
      exact hok

theorem decode_error (h : Settles d d) {b : Bytes} {e : DecodeError}
    (herror : d.decode b = .error e) (he : e ≠ .unexpectedEnd) (t : Bytes) :
    d.decode (b ++ t) = .error e := by
  unfold Decoder.decode at herror ⊢
  cases hd : d b with
  | ok found => rw [hd] at herror; cases herror
  | error e' =>
      rw [hd] at herror
      obtain rfl : e' = e := Except.error.inj herror
      rw [h.error hd he t]
      rfl

theorem decode_cut (h : Settles d d) {b form : Bytes} {x : α} (hreads : d.Reads form x)
    (hbegins : b <+: form) (hproper : b ≠ form) : d.decode b = .error .unexpectedEnd := by
  obtain ⟨back, rfl⟩ := hbegins
  have hback : back ≠ [] := by
    rintro rfl
    exact hproper (List.append_nil b).symm
  unfold Decoder.decode
  rw [h.cut hreads hback]
  rfl

end Decoder.Settles

open Decoder

/-! ### Bytes -/

theorem settles_takeByte : takeByte.Settles takeByte where
  ok {input x rest} h more := by
    cases input with
    | nil => cases h
    | cons b behind =>
        obtain ⟨rfl, rfl⟩ := Prod.mk.inj (Except.ok.inj h)
        rfl
  error {input e} h he := by
    cases input with
    | nil => exact absurd (Except.error.inj h).symm he
    | cons b behind => cases h

theorem settles_takeBytes (count : Nat) : (takeBytes count).Settles (takeBytes count) where
  ok {input x rest} h more := by
    unfold takeBytes at h ⊢
    split at h
    next hle =>
      obtain ⟨rfl, rfl⟩ := Prod.mk.inj (Except.ok.inj h)
      have hmore : count ≤ (input ++ more).length := by
        rw [List.length_append]
        omega
      rw [if_pos hmore, List.take_append_of_le_length hle, List.drop_append_of_le_length hle]
    next => cases h
  error {input e} h he := by
    unfold takeBytes at h
    split at h
    next => cases h
    next => exact absurd (Except.error.inj h).symm he

theorem settles_takeItems {α : Type} {item item' : Decoder α} (h : item.Settles item')
    (count : Nat) : (takeItems item count).Settles (takeItems item' count) := by
  induction count with
  | zero => exact .done []
  | succ count ih => exact h.bind fun first => ih.map (first :: ·)

/-! ### Numbers, texts and other scalars -/

theorem settles_decodeNat (width : Nat) : (decodeNat width).Settles (decodeNat width) := by
  apply settles_takeByte.bind
  intro first
  split
  next => exact .done _
  next =>
    cases markerWidth? first with
    | none => exact .fail _
    | some count =>
        dsimp only
        split
        next => exact (settles_takeBytes count).map ofLittleEndian
        next => exact .fail _

theorem settles_decodeInt (width : Nat) : (decodeInt width).Settles (decodeInt width) :=
  (settles_decodeNat width).map unzigzag

theorem settles_decodeTag : decodeTag.Settles decodeTag := settles_decodeNat 4

theorem settles_decodeBytes : decodeBytes.Settles decodeBytes :=
  (settles_decodeNat 8).bind settles_takeBytes

theorem settles_decodeString : decodeString.Settles decodeString := by
  apply settles_decodeBytes.bind
  intro data
  cases Bytes.toString? data with
  | none => exact .fail _
  | some s => exact .done s

theorem settles_decodeChar : decodeChar.Settles decodeChar := by
  apply settles_takeByte.bind
  intro first
  cases charWidth? first with
  | none => exact .fail _
  | some width =>
      apply (settles_takeBytes (width - 1)).bind
      intro rest
      split
      next => exact .done _
      next => exact .fail _

theorem settles_decodeDouble : decodeDouble.Settles decodeDouble :=
  (settles_takeBytes 8).map fun bytes => (⟨UInt64.ofNat (ofLittleEndian bytes)⟩ : Double)

theorem settles_decodeSingle : decodeSingle.Settles decodeSingle :=
  (settles_takeBytes 4).map fun bytes => (⟨UInt32.ofNat (ofLittleEndian bytes)⟩ : Single)

theorem settles_decodeBool : decodeBool.Settles decodeBool := by
  apply settles_takeByte.bind
  intro b
  split
  next => exact .done false
  next =>
    split
    next => exact .done true
    next => exact .fail _

theorem settles_decodeOption {α : Type} {decode : Decoder α} (h : decode.Settles decode) :
    (decodeOption decode).Settles (decodeOption decode) := by
  apply settles_takeByte.bind
  intro b
  split
  next => exact .done none
  next =>
    split
    next => exact h.map some
    next => exact .fail _

end Sluice.Wire

namespace Sluice

open Wire

/-! ### Envelopes -/

theorem Field.settles : Field.decoder.Settles Field.decoder := by
  apply settles_decodeTag.bind
  intro tag
  split
  next => exact settles_decodeString.map Field.string
  next => exact (settles_decodeInt 4).map fun n => Field.int (Int32.ofInt n)
  next => exact (settles_decodeInt 8).map fun n => Field.long (Int64.ofInt n)
  next => exact settles_decodeDouble.map Field.double
  next => exact settles_decodeSingle.map Field.float
  next => exact settles_decodeBool.map Field.boolean
  next => exact (settles_decodeInt 2).map fun n => Field.short (Int16.ofInt n)
  next => exact settles_takeByte.map fun b => Field.byte b.toInt8
  next => exact settles_decodeChar.map Field.char
  next => exact settles_decodeBytes.map Field.bytes
  next => exact .fail _

theorem Body.settles : Body.decoder.Settles Body.decoder := by
  apply settles_decodeTag.bind
  intro tag
  split
  next => exact settles_decodeString.map Body.text
  next =>
    apply (settles_decodeNat 8).bind
    intro count
    have hentry := settles_decodeString.bind fun key => Field.settles.map fun f => (key, f)
    exact (settles_takeItems hentry count).map fun entries => Body.map (Keyed.ofList entries)
  next => exact settles_decodeBytes.map Body.object
  next => exact .fail _

theorem DeliveryMode.settles : DeliveryMode.decoder.Settles DeliveryMode.decoder := by
  apply settles_decodeTag.bind
  intro tag
  split
  next => exact .done _
  next => exact .done _
  next => exact .fail _

theorem Envelope.settles : Envelope.decoder.Settles Envelope.decoder := by
  apply (settles_decodeOption settles_decodeString).bind
  intro correlationId
  apply settles_takeByte.bind
  intro priority
  apply (settles_decodeNat 8).bind
  intro timeToLive
  apply DeliveryMode.settles.bind
  intro deliveryMode
  exact Body.settles.map
    (Envelope.mk correlationId priority (UInt64.ofNat timeToLive) deliveryMode)

/-! ### Payloads -/

namespace Payload

/-- Whoever goes deeper finds the same, unless there were too few bytes or the depth was too
small. -/
theorem settles_decodeWithin (depth more : Nat) :
    (decodeWithin depth).Settles (decodeWithin (depth + more)) := by
  -- on the smaller depth; where it is too small, anything may be found with the greater one
  induction depth with
  | zero => exact ⟨nofun, fun h he => absurd (Except.error.inj h).symm he⟩
  | succ depth ih =>
      rw [Nat.add_right_comm]
      apply settles_decodeTag.bind
      intro tag
      split
      next => exact settles_decodeString.map Payload.string
      next => exact (settles_decodeInt 4).map fun n => Payload.int (Int32.ofInt n)
      next => exact (settles_decodeInt 8).map fun n => Payload.long (Int64.ofInt n)
      next => exact settles_decodeDouble.map Payload.double
      next => exact settles_decodeSingle.map Payload.float
      next => exact settles_decodeBool.map Payload.boolean
      next => exact (settles_decodeInt 2).map fun n => Payload.short (Int16.ofInt n)
      next => exact settles_takeByte.map fun b => Payload.byte b.toInt8
      next => exact settles_decodeChar.map Payload.char
      next => exact settles_decodeBytes.map Payload.bytes
      next =>
        apply (settles_decodeNat 8).bind
        intro count
        exact (settles_takeItems ih count).map Payload.list
      next =>
        apply (settles_decodeNat 8).bind
        intro count
        have hentry := settles_decodeString.bind fun key => ih.map fun p => (key, p)
        exact (settles_takeItems hentry count).map fun entries =>
          Payload.map (Keyed.ofList entries).entries
      next =>
        apply settles_decodeString.bind
        intro typeName
        exact settles_decodeBytes.map fun data => Payload.object typeName data
      next => exact .fail _

/-- The depth to which a payload is looked for grows with the bytes, and that changes nothing. -/
theorem settles : decoder.Settles decoder where
  ok {input x rest} h more := by
    have hok := (settles_decodeWithin (input.length + 1) more.length).ok h more
    rwa [Nat.add_right_comm, ← List.length_append] at hok
  error {input e} h he more := by
    have herror := (settles_decodeWithin (input.length + 1) more.length).error h he more
    rwa [Nat.add_right_comm, ← List.length_append] at herror

end Payload

/-! ### Cuts and trailing bytes -/

namespace Wire

/-- Trailing bytes change neither what an envelope or a payload is read as nor why bytes are none,
unless there were too few of them; and there are too few when the end of a form is cut off,
wherever the cut is. -/
theorem trailing_and_missing_bytes {e : Envelope} (he : e.Fits) {p : Payload}
    (hordered : p.Ordered) (hp : p.Fits) (b t : Bytes) :
    ((∀ x, Envelope.ofBytes b = .ok x → Envelope.ofBytes (b ++ t) = .ok x) ∧
      (∀ fault, fault ≠ .unexpectedEnd → Envelope.ofBytes b = .error fault →
        Envelope.ofBytes (b ++ t) = .error fault) ∧
      (b <+: e.encode → b ≠ e.encode → Envelope.ofBytes b = .error .unexpectedEnd)) ∧
    ((∀ x, Payload.ofBytes b = .ok x → Payload.ofBytes (b ++ t) = .ok x) ∧
      (∀ fault, fault ≠ .unexpectedEnd → Payload.ofBytes b = .error fault →
        Payload.ofBytes (b ++ t) = .error fault) ∧
      (b <+: p.encode → b ≠ p.encode → Payload.ofBytes b = .error .unexpectedEnd)) := by
  constructor
  · refine ⟨fun x hx => ?_, fun fault hfault hb => ?_, fun hbegins hproper => ?_⟩
    · exact Envelope.settles.decode_ok hx t
    · exact Envelope.settles.decode_error hb hfault t
    · exact Envelope.settles.decode_cut (Envelope.reads he) hbegins hproper
  · refine ⟨fun x hx => ?_, fun fault hfault hb => ?_, fun hbegins hproper => ?_⟩
    · exact Payload.settles.decode_ok hx t
    · exact Payload.settles.decode_error hb hfault t
    · exact Payload.settles.decode_cut (Payload.reads hordered hp) hbegins hproper

/-- Cuts in the middle of a character and in the middle of a number, and a text that is not well
formed with bytes behind it. -/
theorem trailing_and_missing_bytes_amid :
    let e : Envelope := ⟨none, 9, 300, .persistent, .text "€"⟩
    let p : Payload := .map [("k", .list [.string "é", .long 300])]
    e.Fits ∧ p.Ordered ∧ p.Fits ∧
      Envelope.ofBytes (e.encode.take 9) = .error .unexpectedEnd ∧
      Payload.ofBytes (p.encode.take 12) = .error .unexpectedEnd ∧
      Payload.ofBytes [0, 1, 255] = .error .utf8 ∧
      Payload.ofBytes ([0, 1, 255] ++ [7]) = .error .utf8 := by
  intro e p
  have he : e.Fits := ⟨nofun, by change "€".utf8ByteSize < _; decide⟩
  have hordered : p.Ordered := ⟨by simp, ⟨trivial, trivial, trivial⟩, trivial⟩
  have hp : p.Fits := by
    change ∀ q ∈ [p, .list _, .string "é", .long 300], q.FitsAlone
    simp only [List.forall_mem_cons, List.not_mem_nil, false_imp_iff, implies_true, and_true]
    refine ⟨⟨by decide, ?_⟩, ?_, ?_, trivial⟩
    · intro entry hentry
      obtain rfl := List.mem_singleton.mp hentry
      decide
    · change 2 < Nat.pow 2 64
      decide
    · change "é".utf8ByteSize < _
      decide
  have hutf8 : Payload.ofBytes [0, 1, 255] = .error .utf8 := rfl
  have hcut := trailing_and_missing_bytes he hordered hp (e.encode.take 9) []
  have hcut' := trailing_and_missing_bytes he hordered hp (p.encode.take 12) []
  have htrailing := trailing_and_missing_bytes he hordered hp [0, 1, 255] [7]
  refine ⟨he, hordered, hp, ?_, ?_, hutf8, ?_⟩
  · exact hcut.1.2.2 (List.take_prefix _ _) (by decide +kernel)
  · exact hcut'.2.2.2 (List.take_prefix _ _) (by decide +kernel)
  · exact htrailing.2.2.1 _ (by decide) hutf8

end Wire

end Sluice
