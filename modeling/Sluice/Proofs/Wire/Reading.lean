import Sluice.Wire.Scalar

/-! # Reading back what was written

A decoder reads a value off some bytes when it finds the value at the front of every input that
begins with these bytes, and leaves the rest of the input alone. Reading one thing after the other
reads the bytes one after the other, so what was written in pieces is read back piece by piece, and
no form that is read back can be the beginning of another one.
-/

namespace Sluice

namespace Bytes

theorem toList_loop (a : ByteArray) (i : Nat) (found : Bytes) :
    ByteArray.toList.loop a i found = found.reverse ++ a.data.toList.drop i := by
  induction i, found using ByteArray.toList.loop.induct a with
  | case1 i found hlt ih =>
      have hi : i < a.data.toList.length := by simpa using hlt
      have hget : a.get! i = a.data.toList[i] := by
        rw [Array.getElem_toList]
        exact getElem!_pos a.data i (by simpa using hlt)
      rw [ByteArray.toList.loop, if_pos hlt, ih, List.drop_eq_getElem_cons hi, hget]
      simp
  | case2 i found hge =>
      have hlength : a.data.toList.length ≤ i := by simpa using hge
      rw [ByteArray.toList.loop, if_neg hge, List.drop_eq_nil_of_le hlength, List.append_nil]

theorem ofString_eq (s : String) : ofString s = s.toByteArray.data.toList := by
  unfold ofString ByteArray.toList
  rw [toList_loop]
  simp

theorem length_ofString (s : String) : (ofString s).length = s.utf8ByteSize := by
  rw [ofString_eq, Array.length_toList]
  rfl

theorem toString?_data (s : String) : toString? s.toByteArray.data.toList = some s := by
  unfold toString? String.fromUTF8?
  rw [Array.toArray_toList, dif_pos s.isValidUTF8]
  rfl

/-- The bytes of a text are the bytes of that text and of no other. -/
theorem toString?_ofString (s : String) : toString? (ofString s) = some s := by
  rw [ofString_eq, toString?_data]

theorem toString?_encodeChar (c : Char) :
    toString? (Wire.encodeChar c) = some (String.ofList [c]) := by
  have hbytes : Wire.encodeChar c = (String.ofList [c]).toByteArray.data.toList := by
    rw [String.toByteArray_ofList, List.utf8Encode_singleton, List.toList_data_toByteArray]
    rfl
  rw [hbytes, toString?_data]

end Bytes

namespace Wire

/-- The decoder finds the value at the front of whatever begins with the bytes. -/
def Decoder.Reads {α : Type} (d : Decoder α) (bytes : Bytes) (x : α) : Prop :=
  ∀ rest, d (bytes ++ rest) = .ok (x, rest)

namespace Decoder.Reads

variable {α β : Type} {d : Decoder α} {bytes bytes' : Bytes} {x : α}

theorem done (x : α) : Reads (pure x) [] x := fun _ => rfl

theorem bind {f : α → Decoder β} {y : β} (h : Reads d bytes x) (h' : Reads (f x) bytes' y) :
    Reads (d >>= f) (bytes ++ bytes') y := by
  intro rest
  change (d (bytes ++ bytes' ++ rest) >>= fun found => f found.1 found.2) = _
  rw [List.append_assoc, h]
  exact h' rest

/-- What is read at last need not read any more. -/
theorem bind_nil {f : α → Decoder β} {y : β} (h : Reads d bytes x) (h' : Reads (f x) [] y) :
    Reads (d >>= f) bytes y := by
  rw [← List.append_nil bytes]
  exact h.bind h'

theorem map (f : α → β) (h : Reads d bytes x) : Reads (d >>= fun x => pure (f x)) bytes (f x) :=
  h.bind_nil (done (f x))

/-- What is read depends on nothing but the bytes. -/
theorem decode_append (h : Reads d bytes x) (rest : Bytes) : d.decode (bytes ++ rest) = .ok x := by
  unfold Decoder.decode
  rw [h rest]
  rfl

theorem decode (h : Reads d bytes x) : d.decode bytes = .ok x := by
  simpa using h.decode_append []

/-- Of two forms that are read back, one begins with the other only if they stand for the same. -/
theorem eq_of_append {x' : α} (h : Reads d bytes x) (h' : Reads d bytes' x')
    (hbytes : bytes <+: bytes') : x = x' := by
  obtain ⟨rest, rfl⟩ := hbytes
  have hread := h.decode_append rest
  rw [h'.decode] at hread
  exact (Except.ok.inj hread).symm

end Decoder.Reads

open Decoder

/-! ### Bytes -/

theorem reads_takeByte (b : UInt8) : takeByte.Reads [b] b := fun _ => rfl

theorem reads_takeBytes (bytes : Bytes) : (takeBytes bytes.length).Reads bytes bytes := by
  intro rest
  unfold takeBytes
  rw [if_pos (by simp), List.take_left, List.drop_left]

theorem reads_takeItems {α : Type} {item : Decoder α} {encode : α → Bytes} {items : List α}
    (h : ∀ x ∈ items, item.Reads (encode x) x) :
    (takeItems item items.length).Reads (items.flatMap encode) items := by
  induction items with
  | nil => exact .done []
  | cons first rest ih =>
      have hrest := ih fun x hx => h x (List.mem_cons_of_mem _ hx)
      exact (h first List.mem_cons_self).bind (hrest.map (first :: ·))

/-! ### Whole numbers -/

theorem length_littleEndian (count n : Nat) : (littleEndian count n).length = count := by
  induction count generalizing n with
  | zero => rfl
  | succ count ih => rw [littleEndian, List.length_cons, ih]

theorem ofLittleEndian_littleEndian {count n : Nat} (h : n < Nat.pow 256 count) :
    ofLittleEndian (littleEndian count n) = n := by
  induction count generalizing n with
  | zero =>
      have hzero : n = 0 := Nat.lt_one_iff.mp h
      rw [hzero]
      rfl
  | succ count ih =>
      have hquotient : n / 256 < Nat.pow 256 count :=
        Nat.div_lt_of_lt_mul (by rwa [Nat.mul_comm])
      rw [littleEndian, ofLittleEndian, ih hquotient, UInt8.toNat_ofNat', Nat.mod_mod]
      exact Nat.mod_add_div n 256

theorem reads_littleEndian {count n : Nat} (h : n < Nat.pow 256 count) :
    ((takeBytes count).Reads (littleEndian count n) (littleEndian count n)) ∧
      ofLittleEndian (littleEndian count n) = n := by
  refine ⟨?_, ofLittleEndian_littleEndian h⟩
  have hread := reads_takeBytes (littleEndian count n)
  rwa [length_littleEndian] at hread

/-- A marker and a number in as many bytes as the marker names. -/
theorem reads_marked {width count n : Nat} {marker : UInt8} (hmarker : 251 ≤ marker.toNat)
    (hcount : markerWidth? marker = some count) (hwidth : count ≤ width)
    (hn : n < Nat.pow 256 count) :
    (decodeNat width).Reads (marker :: littleEndian count n) n := by
  obtain ⟨hread, hvalue⟩ := reads_littleEndian hn
  refine (reads_takeByte marker).bind ?_
  rw [if_neg (by omega), hcount]
  dsimp only
  rw [if_pos hwidth]
  have hmapped := hread.map ofLittleEndian
  rwa [hvalue] at hmapped

/-- The widths for which numbers are asked. -/
def IsWidth (width : Nat) : Prop := width = 2 ∨ width = 4 ∨ width = 8

theorem reads_decodeNat {width n : Nat} (hwidth : IsWidth width) (hn : n < Nat.pow 256 width) :
    (decodeNat width).Reads (encodeNat n) n := by
  unfold encodeNat
  split
  next hsmall =>
    have hbyte : (UInt8.ofNat n).toNat = n := by
      rw [UInt8.toNat_ofNat']
      omega
    refine (reads_takeByte _).bind ?_
    rw [hbyte, if_pos hsmall]
    exact .done n
  next =>
    -- a greater number is written in the first width that holds it, so in no greater one than asked
    split
    next h => exact reads_marked (by decide) rfl (by rcases hwidth with h | h | h <;> omega) h
    next hmore =>
      split
      next h =>
        refine reads_marked (by decide) rfl ?_ h
        rcases hwidth with rfl | rfl | rfl
        · exact absurd hn hmore
        · decide
        · decide
      next hmore' =>
        rcases hwidth with rfl | rfl | rfl
        · exact absurd hn hmore
        · exact absurd hn hmore'
        · rw [if_pos hn]
          exact reads_marked (by decide) rfl (by decide) hn

theorem unzigzag_zigzag (n : Int) : unzigzag (zigzag n) = n := by
  unfold unzigzag zigzag
  cases n with
  | ofNat k => simp
  | negSucc k =>
      have hodd : (2 * k + 1) % 2 ≠ 0 := by omega
      have hhalf : (2 * k + 1) / 2 = k := by omega
      simp only [hodd, hhalf, if_false]

theorem zigzag_lt {n : Int} {bound : Nat} (hlow : -(bound : Int) ≤ n) (hhigh : n < bound) :
    zigzag n < 2 * bound := by
  unfold zigzag
  cases n with
  | ofNat k =>
      dsimp only
      have : (k : Int) < bound := hhigh
      omega
  | negSucc k =>
      dsimp only
      omega

theorem reads_decodeInt {width : Nat} {n : Int} {bound : Nat} (hwidth : IsWidth width)
    (hbound : 2 * bound = Nat.pow 256 width) (hlow : -(bound : Int) ≤ n) (hhigh : n < bound) :
    (decodeInt width).Reads (encodeInt n) n := by
  have hread := (reads_decodeNat hwidth (hbound ▸ zigzag_lt hlow hhigh)).map unzigzag
  rwa [unzigzag_zigzag] at hread

theorem reads_int16 {α : Type} (f : Int16 → α) (n : Int16) :
    Reads (decodeInt 2 >>= fun i => pure (f (Int16.ofInt i))) (encodeInt n.toInt) (f n) := by
  have hbound : 2 * Nat.pow 2 15 = Nat.pow 256 2 := rfl
  have hread := reads_decodeInt (.inl rfl) hbound n.le_toInt n.toInt_lt
  simpa using hread.map fun i => f (Int16.ofInt i)

theorem reads_int32 {α : Type} (f : Int32 → α) (n : Int32) :
    Reads (decodeInt 4 >>= fun i => pure (f (Int32.ofInt i))) (encodeInt n.toInt) (f n) := by
  have hbound : 2 * Nat.pow 2 31 = Nat.pow 256 4 := rfl
  have hread := reads_decodeInt (.inr (.inl rfl)) hbound n.le_toInt n.toInt_lt
  simpa using hread.map fun i => f (Int32.ofInt i)

theorem reads_int64 {α : Type} (f : Int64 → α) (n : Int64) :
    Reads (decodeInt 8 >>= fun i => pure (f (Int64.ofInt i))) (encodeInt n.toInt) (f n) := by
  have hbound : 2 * Nat.pow 2 63 = Nat.pow 256 8 := rfl
  have hread := reads_decodeInt (.inr (.inr rfl)) hbound n.le_toInt n.toInt_lt
  simpa using hread.map fun i => f (Int64.ofInt i)

/-- What comes behind a tag is read as the tag says. -/
theorem reads_tagged {α : Type} (tag : Nat) (htag : tag < 251) {f : Nat → Decoder α} {bytes : Bytes}
    {x : α} (h : (f tag).Reads bytes x) :
    (decodeTag >>= f).Reads (UInt8.ofNat tag :: bytes) x := by
  have hbound : tag < Nat.pow 256 4 := Nat.lt_trans htag (by decide)
  have hread := reads_decodeNat (.inr (.inl rfl)) hbound
  rw [encodeNat, if_pos htag] at hread
  exact hread.bind h

/-! ### Texts and other scalars -/

theorem reads_decodeBytes {data : Bytes} (h : data.length < Nat.pow 2 64) :
    decodeBytes.Reads (encodeBytes data) data :=
  (reads_decodeNat (.inr (.inr rfl)) h).bind (reads_takeBytes data)

theorem reads_decodeString {s : String} (h : s.utf8ByteSize < Nat.pow 2 64) :
    decodeString.Reads (encodeString s) s := by
  have hbytes : decodeBytes.Reads (encodeString s) (Bytes.ofString s) :=
    reads_decodeBytes (by rwa [Bytes.length_ofString])
  refine hbytes.bind_nil ?_
  rw [Bytes.toString?_ofString]
  exact .done s

/-- The first byte of a character tells how many there are. -/
theorem encodeChar_eq_cons (c : Char) : ∃ first rest, encodeChar c = first :: rest ∧
    charWidth? first = some (rest.length + 1) := by
  have hc : c.val.toNat < 0x110000 := by
    have hvalid := c.valid
    simp only [UInt32.isValidChar, Nat.isValidChar] at hvalid
    omega
  unfold encodeChar String.utf8EncodeChar charWidth?
  dsimp only
  split
  next => exact ⟨_, _, rfl, by rw [UInt8.toNat_ofNat', if_pos (by omega)]; rfl⟩
  next =>
    split
    next =>
      refine ⟨_, _, rfl, ?_⟩
      rw [UInt8.toNat_ofNat', if_neg (by omega), if_neg (by omega), if_pos (by omega)]
      rfl
    next =>
      split
      next =>
        refine ⟨_, _, rfl, ?_⟩
        rw [UInt8.toNat_ofNat', if_neg (by omega), if_neg (by omega), if_neg (by omega),
          if_pos (by omega)]
        rfl
      next =>
        refine ⟨_, _, rfl, ?_⟩
        rw [UInt8.toNat_ofNat', if_neg (by omega), if_neg (by omega), if_neg (by omega),
          if_neg (by omega), if_pos (by omega)]
        rfl

theorem reads_decodeChar (c : Char) : decodeChar.Reads (encodeChar c) c := by
  obtain ⟨first, rest, hbytes, hwidth⟩ := encodeChar_eq_cons c
  have hvalue := Bytes.toString?_encodeChar c
  rw [hbytes] at hvalue ⊢
  rw [← List.singleton_append]
  refine (reads_takeByte first).bind ?_
  rw [hwidth]
  refine (reads_takeBytes rest).bind_nil ?_
  rw [hvalue, Option.map_some, String.toList_ofList]
  exact .done c

theorem reads_decodeDouble (x : Double) : decodeDouble.Reads (encodeDouble x) x := by
  have hbits : x.bits.toNat < Nat.pow 256 8 := x.bits.toNat_lt
  obtain ⟨hread, hvalue⟩ := reads_littleEndian hbits
  have hmapped := hread.map fun bytes => (⟨UInt64.ofNat (ofLittleEndian bytes)⟩ : Double)
  rwa [hvalue, UInt64.ofNat_toNat] at hmapped

theorem reads_decodeSingle (x : Single) : decodeSingle.Reads (encodeSingle x) x := by
  have hbits : x.bits.toNat < Nat.pow 256 4 := x.bits.toNat_lt
  obtain ⟨hread, hvalue⟩ := reads_littleEndian hbits
  have hmapped := hread.map fun bytes => (⟨UInt32.ofNat (ofLittleEndian bytes)⟩ : Single)
  rwa [hvalue, UInt32.ofNat_toNat] at hmapped

theorem reads_decodeBool (b : Bool) : decodeBool.Reads (encodeBool b) b := by
  cases b <;> exact fun _ => rfl

theorem reads_decodeOption {α : Type} {decode : Decoder α} {encode : α → Bytes} {found : Option α}
    (h : ∀ x, found = some x → decode.Reads (encode x) x) :
    (decodeOption decode).Reads (encodeOption encode found) found := by
  cases found with
  | none => exact fun _ => rfl
  | some x => exact (reads_takeByte 1).bind ((h x rfl).map some)

end Wire

end Sluice
