import Sluice.Proofs.Wire.Reading

/-! # The forms of scalars

A decoder takes more forms than are written: a number may stand behind a wider marker than it needs,
and so may the length of a text. What follows says which forms there are for which value. Whatever a
decoder finds has one of the forms of what was found, and each of the forms is read. No form of a
value is shorter than the one that is written.
-/

namespace Sluice

namespace Bytes

theorem toString?_eq_some_iff {data : Bytes} {s : String} :
    toString? data = some s ↔ data = ofString s := by
  constructor
  · intro h
    unfold toString? String.fromUTF8? at h
    split at h
    next =>
      rw [ofString_eq, ← Option.some.inj h]
      rfl
    next => cases h
  · rintro rfl
    exact toString?_ofString s

theorem ofString_singleton (c : Char) : ofString (String.ofList [c]) = Wire.encodeChar c :=
  (toString?_eq_some_iff.mp (toString?_encodeChar c)).symm

end Bytes

namespace Wire

/-- Whatever the decoder finds has one of the forms of what was found, and leaves the rest alone. -/
structure Decoder.Finds {α : Type} (d : Decoder α) (Form : Bytes → α → Prop) : Prop where
  form : ∀ {input : Bytes} {x : α} {rest : Bytes}, d input = .ok (x, rest) →
    ∃ form, input = form ++ rest ∧ Form form x

namespace Decoder.Finds

variable {α β : Type} {d : Decoder α} {Form : Bytes → α → Prop} {Form' : Bytes → β → Prop}

theorem done {x : α} (h : Form [] x) : Finds (pure x) Form where
  form hok := by
    obtain ⟨rfl, rfl⟩ := Prod.mk.inj (Except.ok.inj hok)
    exact ⟨[], rfl, h⟩

theorem fail {e : DecodeError} : Finds (Decoder.fail e) Form where
  form hok := by cases hok

theorem bind {f : α → Decoder β} (h : Finds d Form)
    (hf : ∀ x first, Form first x → Finds (f x) fun second y => Form' (first ++ second) y) :
    Finds (d >>= f) Form' where
  form {input y rest} hok := by
    change (d input >>= fun found => f found.1 found.2) = _ at hok
    cases hd : d input with
    | error e => rw [hd] at hok; cases hok
    | ok found =>
        rw [hd] at hok
        obtain ⟨first, rfl, hfirst⟩ := h.form hd
        obtain ⟨second, hrest, hform⟩ := (hf found.1 first hfirst).form hok
        refine ⟨first ++ second, ?_, hform⟩
        rw [hrest, List.append_assoc]

theorem map {f : α → β} (h : Finds d Form) (hf : ∀ x form, Form form x → Form' form (f x)) :
    Finds (d >>= fun x => pure (f x)) Form' := by
  apply h.bind
  intro x form hform
  apply done
  rw [List.append_nil]
  exact hf x form hform

/-- What is found at the front of a byte sequence is found as each of its forms is read. -/
theorem decode_eq_ok_iff (h : Finds d Form) (hreads : ∀ {form x}, Form form x → d.Reads form x)
    (b : Bytes) (x : α) : d.decode b = .ok x ↔ ∃ form rest, b = form ++ rest ∧ Form form x := by
  constructor
  · intro hok
    unfold Decoder.decode at hok
    cases hd : d b with
    | error e => rw [hd] at hok; cases hok
    | ok found =>
        rw [hd] at hok
        obtain ⟨form, hb, hform⟩ := h.form hd
        rw [Except.ok.inj hok] at hform
        exact ⟨form, found.2, hb, hform⟩
  · rintro ⟨form, rest, rfl, hform⟩
    exact (hreads hform).decode_append rest

end Decoder.Finds

open Decoder

/-! ### Bytes and sequences -/

theorem finds_takeByte : takeByte.Finds fun form b => form = [b] where
  form {input b rest} hok := by
    cases input with
    | nil => cases hok
    | cons first behind =>
        obtain ⟨rfl, rfl⟩ := Prod.mk.inj (Except.ok.inj hok)
        exact ⟨[first], rfl, rfl⟩

theorem finds_takeBytes (count : Nat) :
    (takeBytes count).Finds fun form data => form = data ∧ data.length = count where
  form {input data rest} hok := by
    unfold takeBytes at hok
    split at hok
    next hle =>
      obtain ⟨rfl, rfl⟩ := Prod.mk.inj (Except.ok.inj hok)
      exact ⟨input.take count, (List.take_append_drop count input).symm, rfl,
        List.length_take_of_le hle⟩
    next => cases hok

/-- The forms of a list of items are forms of its items, one after the other. -/
inductive ItemForms {α : Type} (Form : Bytes → α → Prop) : Bytes → List α → Prop
  | nil : ItemForms Form [] []
  | cons {first second : Bytes} {x : α} {xs : List α} (head : Form first x)
      (tail : ItemForms Form second xs) : ItemForms Form (first ++ second) (x :: xs)

section Items

variable {α : Type} {Form : Bytes → α → Prop}

theorem finds_takeItems {item : Decoder α} (h : item.Finds Form) (count : Nat) :
    (takeItems item count).Finds fun form xs => xs.length = count ∧ ItemForms Form form xs := by
  induction count with
  | zero => exact .done ⟨rfl, .nil⟩
  | succ count ih =>
      apply h.bind
      intro x first hfirst
      apply ih.map
      rintro xs second ⟨hlength, htail⟩
      exact ⟨congrArg (· + 1) hlength, .cons hfirst htail⟩

namespace ItemForms

theorem reads {item : Decoder α} {form : Bytes} {xs : List α} (h : ItemForms Form form xs)
    (hitem : ∀ inner x, Form inner x → inner.length ≤ form.length → item.Reads inner x) :
    (takeItems item xs.length).Reads form xs := by
  induction h with
  | nil => exact .done []
  | @cons first second x xs head tail ih =>
      have hlength : (first ++ second).length = first.length + second.length := List.length_append
      refine (hitem first x head (by omega)).bind (Reads.map (x :: ·) (ih ?_))
      intro inner y hinner hle
      exact hitem inner y hinner (by omega)

/-- If no item has a longer form than the one that stands here, neither has the list. -/
theorem length_le {form : Bytes} {xs : List α} (h : ItemForms Form form xs) (encode : α → Bytes)
    (hitem : ∀ inner x, Form inner x → inner.length ≤ form.length →
      (encode x).length ≤ inner.length) :
    (xs.flatMap encode).length ≤ form.length := by
  induction h with
  | nil => exact Nat.le_refl 0
  | @cons first second x xs head tail ih =>
      have hlength : (first ++ second).length = first.length + second.length := List.length_append
      have hfirst := hitem first x head (by omega)
      have hsecond := ih fun inner y hinner hle => hitem inner y hinner (by omega)
      rw [List.flatMap_cons, List.length_append, hlength]
      omega

theorem of_mem {form : Bytes} {xs : List α} (h : ItemForms Form form xs) {x : α} (hx : x ∈ xs) :
    ∃ inner, Form inner x ∧ inner.length ≤ form.length := by
  induction h with
  | nil => cases hx
  | @cons first second y xs head tail ih =>
      rw [List.length_append]
      rcases List.mem_cons.mp hx with rfl | hx
      · exact ⟨first, head, by omega⟩
      · obtain ⟨inner, hinner, hle⟩ := ih hx
        exact ⟨inner, hinner, by omega⟩

end ItemForms

end Items

/-! ### Whole numbers -/

theorem ofLittleEndian_lt (data : Bytes) : ofLittleEndian data < Nat.pow 256 data.length := by
  induction data with
  | nil => decide
  | cons b rest ih =>
      have hb : b.toNat < 256 := b.toNat_lt
      have hpow : Nat.pow 256 (rest.length + 1) = Nat.pow 256 rest.length * 256 := Nat.pow_succ ..
      rw [ofLittleEndian, List.length_cons, hpow]
      omega

theorem littleEndian_ofLittleEndian (data : Bytes) :
    littleEndian data.length (ofLittleEndian data) = data := by
  induction data with
  | nil => rfl
  | cons b rest ih =>
      have hb : b.toNat < 256 := b.toNat_lt
      have hlow : (b.toNat + 256 * ofLittleEndian rest) % 256 = b.toNat := by omega
      have hhigh : (b.toNat + 256 * ofLittleEndian rest) / 256 = ofLittleEndian rest := by omega
      rw [ofLittleEndian, List.length_cons, littleEndian, hlow, hhigh, ih, UInt8.ofNat_toNat]

/-- The forms of a number of at most `width` bytes: a byte alone, or a marker and as many bytes as
the marker names, be there fewer that would do or not. -/
inductive NumberForm (width : Nat) : Bytes → Nat → Prop
  | alone {b : UInt8} (small : b.toNat < 251) : NumberForm width [b] b.toNat
  | marked {marker : UInt8} {digits : Bytes} (named : markerWidth? marker = some digits.length)
      (fits : digits.length ≤ width) : NumberForm width (marker :: digits) (ofLittleEndian digits)

theorem finds_decodeNat (width : Nat) : (decodeNat width).Finds (NumberForm width) := by
  apply finds_takeByte.bind
  rintro first _ rfl
  split
  next hsmall => exact .done (.alone hsmall)
  next =>
    cases hmarker : markerWidth? first with
    | none => exact .fail
    | some count =>
        dsimp only
        split
        next hfits =>
          apply (finds_takeBytes count).map
          rintro digits _ ⟨rfl, rfl⟩
          exact .marked hmarker hfits
        next => exact .fail

/-- The markers are above the numbers of one byte, and name four widths. -/
theorem marker_of_width {marker : UInt8} {count : Nat} (h : markerWidth? marker = some count) :
    251 ≤ marker.toNat ∧ (count = 2 ∨ count = 4 ∨ count = 8 ∨ count = 16) := by
  unfold markerWidth? at h
  split at h
  next hmarker => exact ⟨by rw [hmarker]; decide, .inl (Option.some.inj h).symm⟩
  next =>
    split at h
    next hmarker => exact ⟨by rw [hmarker]; decide, .inr (.inl (Option.some.inj h).symm)⟩
    next =>
      split at h
      next hmarker => exact ⟨by rw [hmarker]; decide, .inr (.inr (.inl (Option.some.inj h).symm))⟩
      next =>
        split at h
        next hmarker =>
          exact ⟨by rw [hmarker]; decide, .inr (.inr (.inr (Option.some.inj h).symm))⟩
        next => cases h

/-- A greater number has no shorter form. -/
theorem length_encodeNat_le {m n : Nat} (h : m ≤ n) :
    (encodeNat m).length ≤ (encodeNat n).length := by
  have hlength (n : Nat) : (encodeNat n).length =
      if n < 251 then 1 else if n < Nat.pow 2 16 then 3 else if n < Nat.pow 2 32 then 5
      else if n < Nat.pow 2 64 then 9 else 17 := by
    simp only [encodeNat, apply_ite List.length, List.length_cons, List.length_nil,
      length_littleEndian]
  rw [hlength, hlength]
  grind

namespace NumberForm

variable {width n : Nat} {form : Bytes}

theorem reads (h : NumberForm width form n) : (decodeNat width).Reads form n := by
  cases h with
  | @alone b small =>
      refine (reads_takeByte b).bind_nil ?_
      rw [if_pos small]
      exact .done _
  | @marked marker digits named fits =>
      have hread := reads_marked (marker_of_width named).1 named fits (ofLittleEndian_lt digits)
      rwa [littleEndian_ofLittleEndian] at hread

theorem length_pos (h : NumberForm width form n) : 0 < form.length := by
  cases h <;> exact Nat.zero_lt_succ _

theorem lt (h : NumberForm width form n) (hwidth : 0 < width) : n < Nat.pow 256 width := by
  have hpow (count : Nat) (hcount : count ≤ width) : Nat.pow 256 count ≤ Nat.pow 256 width :=
    Nat.pow_le_pow_right (by decide) hcount
  cases h with
  | @alone b small =>
      have hbyte : 256 ≤ Nat.pow 256 width := hpow 1 hwidth
      omega
  | @marked marker digits named fits =>
      exact Nat.lt_of_lt_of_le (ofLittleEndian_lt digits) (hpow _ fits)

/-- What is written is written in the shortest form. -/
theorem length_le (h : NumberForm width form n) : (encodeNat n).length ≤ form.length := by
  cases h with
  | @alone b small =>
      have hle : (encodeNat b.toNat).length ≤ (encodeNat 250).length :=
        length_encodeNat_le (by omega)
      exact hle
  | @marked marker digits named fits =>
      -- the greatest number of that many digits needs no wider marker than this one
      have hlt := ofLittleEndian_lt digits
      have hle : (encodeNat (ofLittleEndian digits)).length ≤
          (encodeNat (Nat.pow 256 digits.length - 1)).length := length_encodeNat_le (by omega)
      refine Nat.le_trans hle ?_
      rw [List.length_cons]
      rcases (marker_of_width named).2 with hcount | hcount | hcount | hcount <;>
        rw [hcount] <;> decide

end NumberForm

/-- A value behind a tag whose form is no longer than it has to be. -/
theorem length_tagged {tag : Nat} {front form bytes : Bytes} (htag : NumberForm 4 front tag)
    (h : bytes.length ≤ form.length) (b : UInt8) :
    (b :: bytes).length ≤ (front ++ form).length := by
  have hpos := htag.length_pos
  rw [List.length_cons, List.length_append]
  omega

theorem zigzag_unzigzag (n : Nat) : zigzag (unzigzag n) = n := by
  unfold unzigzag
  split
  next heven =>
    change 2 * (n / 2) = n
    omega
  next hodd =>
    change 2 * (n / 2) + 1 = n
    omega

/-- The forms of a signed number are those of the number onto which it is folded. -/
def SignedForm (width : Nat) (form : Bytes) (n : Int) : Prop := NumberForm width form (zigzag n)

theorem finds_decodeInt (width : Nat) : (decodeInt width).Finds (SignedForm width) := by
  apply (finds_decodeNat width).map
  intro n form hform
  unfold SignedForm
  rwa [zigzag_unzigzag]

namespace SignedForm

variable {α : Type} {width : Nat} {form : Bytes} {n : Int}

theorem reads (h : SignedForm width form n) : (decodeInt width).Reads form n := by
  have hread := (NumberForm.reads h).map unzigzag
  rwa [unzigzag_zigzag] at hread

theorem length_le (h : SignedForm width form n) : (encodeInt n).length ≤ form.length :=
  NumberForm.length_le h

/-- A number that has a form fits in the type of numbers of that width. -/
theorem bounds (h : SignedForm width form n) (hwidth : 0 < width) (bound : Nat)
    (hbound : 2 * bound = Nat.pow 256 width) : -(bound : Int) ≤ n ∧ n < bound := by
  have hlt := NumberForm.lt h hwidth
  rw [← hbound] at hlt
  unfold zigzag at hlt
  cases n with
  | ofNat k =>
      change 2 * k < _ at hlt
      change -(bound : Int) ≤ (k : Int) ∧ (k : Int) < bound
      omega
  | negSucc k =>
      change 2 * k + 1 < _ at hlt
      omega

theorem int16 (h : SignedForm 2 form n) : SignedForm 2 form (Int16.ofInt n).toInt := by
  obtain ⟨hlow, hhigh⟩ := h.bounds (by decide) (2 ^ 15) rfl
  rwa [Int16.toInt_ofInt_of_le hlow hhigh]

theorem int32 (h : SignedForm 4 form n) : SignedForm 4 form (Int32.ofInt n).toInt := by
  obtain ⟨hlow, hhigh⟩ := h.bounds (by decide) (2 ^ 31) rfl
  rwa [Int32.toInt_ofInt_of_le hlow hhigh]

theorem int64 (h : SignedForm 8 form n) : SignedForm 8 form (Int64.ofInt n).toInt := by
  obtain ⟨hlow, hhigh⟩ := h.bounds (by decide) (2 ^ 63) rfl
  rwa [Int64.toInt_ofInt_of_le hlow hhigh]

theorem reads_int16 {n : Int16} (h : SignedForm 2 form n.toInt) (f : Int16 → α) :
    Reads (decodeInt 2 >>= fun i => pure (f (Int16.ofInt i))) form (f n) := by
  simpa using h.reads.map fun i => f (Int16.ofInt i)

theorem reads_int32 {n : Int32} (h : SignedForm 4 form n.toInt) (f : Int32 → α) :
    Reads (decodeInt 4 >>= fun i => pure (f (Int32.ofInt i))) form (f n) := by
  simpa using h.reads.map fun i => f (Int32.ofInt i)

theorem reads_int64 {n : Int64} (h : SignedForm 8 form n.toInt) (f : Int64 → α) :
    Reads (decodeInt 8 >>= fun i => pure (f (Int64.ofInt i))) form (f n) := by
  simpa using h.reads.map fun i => f (Int64.ofInt i)

end SignedForm

/-! ### Texts and other scalars -/

/-- The forms of a byte sequence: a form of its length, and the bytes. -/
inductive BytesForm : Bytes → Bytes → Prop
  | mk {count data : Bytes} (counted : NumberForm 8 count data.length) :
      BytesForm (count ++ data) data

theorem finds_decodeBytes : decodeBytes.Finds BytesForm := by
  apply (finds_decodeNat 8).bind
  intro n count hcount
  constructor
  intro input data rest hok
  obtain ⟨form, hinput, rfl, rfl⟩ := (finds_takeBytes n).form hok
  exact ⟨form, hinput, .mk hcount⟩

namespace BytesForm

variable {form data : Bytes}

theorem reads (h : BytesForm form data) : decodeBytes.Reads form data := by
  obtain ⟨hcount⟩ := h
  exact hcount.reads.bind (reads_takeBytes data)

theorem lt (h : BytesForm form data) : data.length < Nat.pow 2 64 := by
  obtain ⟨hcount⟩ := h
  exact hcount.lt (by decide)

theorem length_le (h : BytesForm form data) : (encodeBytes data).length ≤ form.length := by
  obtain ⟨hcount⟩ := h
  have hle := hcount.length_le
  rw [encodeBytes, List.length_append, List.length_append]
  omega

end BytesForm

/-- The forms of a text are those of its bytes. -/
def TextForm (form : Bytes) (s : String) : Prop := BytesForm form (Bytes.ofString s)

theorem finds_decodeString : decodeString.Finds TextForm := by
  apply finds_decodeBytes.bind
  intro data form hform
  cases hs : Bytes.toString? data with
  | none => exact .fail
  | some s =>
      apply Finds.done
      rw [Bytes.toString?_eq_some_iff.mp hs] at hform
      rwa [List.append_nil]

namespace TextForm

variable {form : Bytes} {s : String}

theorem reads (h : TextForm form s) : decodeString.Reads form s := by
  refine (BytesForm.reads h).bind_nil ?_
  rw [Bytes.toString?_ofString]
  exact .done s

theorem lt (h : TextForm form s) : s.utf8ByteSize < Nat.pow 2 64 := by
  rw [← Bytes.length_ofString]
  exact BytesForm.lt h

theorem length_le (h : TextForm form s) : (encodeString s).length ≤ form.length :=
  BytesForm.length_le h

end TextForm

/-- A character has no form but the one that is written. -/
theorem finds_decodeChar : decodeChar.Finds fun form c => form = encodeChar c := by
  apply finds_takeByte.bind
  rintro first _ rfl
  cases charWidth? first with
  | none => exact .fail
  | some width =>
      apply (finds_takeBytes (width - 1)).bind
      rintro rest _ ⟨rfl, -⟩
      split
      next c hc =>
        apply Finds.done
        obtain ⟨s, hs, hlist⟩ := Option.map_eq_some_iff.mp hc
        obtain rfl : s = String.ofList [c] := by rw [← hlist, String.ofList_toList]
        rw [← Bytes.ofString_singleton, ← Bytes.toString?_eq_some_iff.mp hs]
        simp
      next => exact .fail

theorem finds_decodeDouble : decodeDouble.Finds fun form x => form = encodeDouble x := by
  apply (finds_takeBytes 8).map
  rintro _ data ⟨rfl, hlength⟩
  have hlt := ofLittleEndian_lt data
  rw [hlength] at hlt
  rw [encodeDouble, UInt64.toNat_ofNat_of_lt' hlt, ← hlength, littleEndian_ofLittleEndian]

theorem finds_decodeSingle : decodeSingle.Finds fun form x => form = encodeSingle x := by
  apply (finds_takeBytes 4).map
  rintro _ data ⟨rfl, hlength⟩
  have hlt := ofLittleEndian_lt data
  rw [hlength] at hlt
  rw [encodeSingle, UInt32.toNat_ofNat_of_lt' hlt, ← hlength, littleEndian_ofLittleEndian]

theorem finds_decodeBool : decodeBool.Finds fun form b => form = encodeBool b := by
  apply finds_takeByte.bind
  rintro b _ rfl
  split
  next hb => exact .done (by rw [hb]; rfl)
  next =>
    split
    next hb => exact .done (by rw [hb]; rfl)
    next => exact .fail

/-- The forms of an optional value: a byte that tells whether there is one, and a form of it. -/
inductive OptionForm {α : Type} (Form : Bytes → α → Prop) : Bytes → Option α → Prop
  | absent : OptionForm Form [0] none
  | present {form : Bytes} {x : α} (inner : Form form x) : OptionForm Form (1 :: form) (some x)

theorem finds_decodeOption {α : Type} {decode : Decoder α} {Form : Bytes → α → Prop}
    (h : decode.Finds Form) : (decodeOption decode).Finds (OptionForm Form) := by
  apply finds_takeByte.bind
  rintro b _ rfl
  split
  next hb => exact .done (by rw [hb]; exact .absent)
  next =>
    split
    next hb =>
      apply h.map
      intro x form hform
      rw [hb]
      exact .present hform
    next => exact .fail

theorem OptionForm.reads {α : Type} {decode : Decoder α} {Form : Bytes → α → Prop} {form : Bytes}
    {found : Option α} (h : OptionForm Form form found)
    (hreads : ∀ form x, Form form x → decode.Reads form x) :
    (decodeOption decode).Reads form found := by
  cases h with
  | absent => exact fun _ => rfl
  | present inner => exact (reads_takeByte 1).bind ((hreads _ _ inner).map some)

theorem OptionForm.length_le {α : Type} {encode : α → Bytes} {Form : Bytes → α → Prop}
    {form : Bytes} {found : Option α} (h : OptionForm Form form found)
    (hinner : ∀ form x, Form form x → (encode x).length ≤ form.length) :
    (encodeOption encode found).length ≤ form.length := by
  cases h with
  | absent => exact Nat.le_refl 1
  | present inner => exact Nat.succ_le_succ (hinner _ _ inner)

end Wire

end Sluice
