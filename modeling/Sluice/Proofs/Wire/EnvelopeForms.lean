import Sluice.Proofs.Wire.Envelopes
import Sluice.Proofs.Wire.Forms

/-! # The forms of envelopes

A form of an envelope is made of forms of its parts. A form of a map lists entries in any order, and
of the entries of one key the last one counts; those that it hides take up bytes all the same. So no
form is shorter than the one that is written.
-/

namespace Sluice

open Wire Decoder

/-! ### Maps -/

namespace Wire

/-- The forms of an entry of a map: a form of its key and a form of its value. -/
inductive EntryForm {α : Type} (Form : Bytes → α → Prop) : Bytes → String × α → Prop
  | mk {front form : Bytes} {key : String} {x : α} (text : TextForm front key)
      (value : Form form x) : EntryForm Form (front ++ form) (key, x)

section Entries

variable {α : Type} {decode : Decoder α} {Form : Bytes → α → Prop}

theorem finds_entry (h : decode.Finds Form) :
    Decoder.Finds (do return (← decodeString, ← decode)) (EntryForm Form) := by
  apply finds_decodeString.bind
  intro key front hkey
  apply h.map
  intro x form hvalue
  exact .mk hkey hvalue

theorem EntryForm.reads {form : Bytes} {entry : String × α} (h : EntryForm Form form entry)
    (hvalue : ∀ inner, Form inner entry.2 → inner.length ≤ form.length →
      decode.Reads inner entry.2) :
    Decoder.Reads (do return (← decodeString, ← decode)) form entry := by
  cases h with
  | @mk front form key x text value =>
      have hread := hvalue form value (by rw [List.length_append]; omega)
      exact text.reads.bind (hread.map fun x => (key, x))

theorem EntryForm.length_le {form : Bytes} {entry : String × α} (h : EntryForm Form form entry)
    (encode : α → Bytes) (hvalue : ∀ inner, Form inner entry.2 → inner.length ≤ form.length →
      (encode entry.2).length ≤ inner.length) :
    (encodeString entry.1 ++ encode entry.2).length ≤ form.length := by
  cases h with
  | @mk front form key x text value =>
      have hkey := text.length_le
      have hx := hvalue form value (by rw [List.length_append]; omega)
      rw [List.length_append, List.length_append]
      exact Nat.add_le_add hkey hx

end Entries

/-- The forms of a map: a form of a count, and forms of as many entries. The map has the last of the
entries of each key. -/
inductive MapForm {α : Type} (Form : Bytes → α → Prop) : Bytes → Keyed α → Prop
  | mk {count forms : Bytes} {written : List (String × α)} {m : Keyed α}
      (counted : NumberForm 8 count written.length)
      (inner : ItemForms (EntryForm Form) forms written)
      (last : ∀ key x, m.get? key = some x ↔ Keyed.IsLast written key x) :
      MapForm Form (count ++ forms) m

section Maps

variable {α β : Type} {decode : Decoder α} {Form : Bytes → α → Prop} {form : Bytes} {m : Keyed α}

theorem finds_map (f : Keyed α → β) {Form' : Bytes → β → Prop} (h : decode.Finds Form)
    (hf : ∀ m form, MapForm Form form m → Form' form (f m)) :
    Finds (do
      let count ← decodeNat 8
      let entries ← takeItems (do return (← decodeString, ← decode)) count
      return f (Keyed.ofList entries)) Form' := by
  apply (finds_decodeNat 8).bind
  intro number count hcount
  apply (finds_takeItems (finds_entry h) number).map
  rintro written forms ⟨rfl, hforms⟩
  apply hf
  exact .mk hcount hforms fun key x => Keyed.get?_ofList_eq_some_iff

namespace MapForm

theorem reads (h : MapForm Form form m) (f : Keyed α → β)
    (hvalue : ∀ inner x, Form inner x → inner.length ≤ form.length → decode.Reads inner x) :
    Reads (do
      let count ← decodeNat 8
      let entries ← takeItems (do return (← decodeString, ← decode)) count
      return f (Keyed.ofList entries)) form (f m) := by
  cases h with
  | @mk count forms written m hcount hforms hlast =>
      rw [Keyed.eq_ofList hlast]
      have hitems : (takeItems (do return (← decodeString, ← decode)) written.length).Reads
          forms written := by
        apply hforms.reads
        intro inner entry hentry hle
        apply hentry.reads
        intro value hform hle'
        exact hvalue value entry.2 hform (by rw [List.length_append]; omega)
      exact hcount.reads.bind (hitems.map fun entries => f (Keyed.ofList entries))

theorem length_le (h : MapForm Form form m) (encode : α → Bytes)
    (hvalue : ∀ inner x, Form inner x → inner.length ≤ form.length →
      (encode x).length ≤ inner.length) :
    (encodeNat m.size ++ m.entries.flatMap fun entry =>
      encodeString entry.1 ++ encode entry.2).length ≤ form.length := by
  cases h with
  | @mk count forms written m hcount hforms hlast =>
      obtain rfl := Keyed.eq_ofList hlast
      -- hidden entries are not written, and without them the count is no greater
      have hsize : (encodeNat (Keyed.ofList written).size).length ≤ count.length :=
        Nat.le_trans (length_encodeNat_le (Keyed.length_entries_ofList_le written))
          hcount.length_le
      have hentries : (written.flatMap fun entry =>
          encodeString entry.1 ++ encode entry.2).length ≤ forms.length := by
        apply hforms.length_le
        intro inner entry hentry hle
        apply hentry.length_le
        intro value hform hle'
        exact hvalue value entry.2 hform (by rw [List.length_append]; omega)
      rw [List.length_append, List.length_append]
      exact Nat.add_le_add hsize
        (Nat.le_trans (Keyed.length_flatMap_ofList_le written _) hentries)

theorem size_lt (h : MapForm Form form m) : m.size < Nat.pow 2 64 := by
  cases h with
  | @mk count forms written m hcount hforms hlast =>
      rw [Keyed.eq_ofList hlast]
      exact Nat.lt_of_le_of_lt (Keyed.length_entries_ofList_le written) (hcount.lt (by decide))

theorem of_mem (h : MapForm Form form m) {entry : String × α} (hentry : entry ∈ m.entries) :
    entry.1.utf8ByteSize < Nat.pow 2 64 ∧
      ∃ inner, Form inner entry.2 ∧ inner.length ≤ form.length := by
  cases h with
  | @mk count forms written m hcount hforms hlast =>
      rw [Keyed.eq_ofList hlast] at hentry
      obtain ⟨inner, hinner, hle⟩ :=
        hforms.of_mem ((Keyed.entries_ofList_subperm written).subset hentry)
      cases hinner with
      | @mk front value key x text hvalue =>
          rw [List.length_append] at hle
          exact ⟨text.lt, value, hvalue, by rw [List.length_append]; omega⟩

end MapForm

end Maps

end Wire

/-! ### Fields -/

namespace Field

/-- The forms of a field: a form of the tag of its kind, and a form of its contents. -/
inductive Form : Bytes → Field → Prop
  | string {tag form : Bytes} {s : String} (tagged : NumberForm 4 tag 0)
      (text : TextForm form s) : Form (tag ++ form) (.string s)
  | int {tag form : Bytes} {n : Int32} (tagged : NumberForm 4 tag 1)
      (number : SignedForm 4 form n.toInt) : Form (tag ++ form) (.int n)
  | long {tag form : Bytes} {n : Int64} (tagged : NumberForm 4 tag 2)
      (number : SignedForm 8 form n.toInt) : Form (tag ++ form) (.long n)
  | double {tag : Bytes} {x : Double} (tagged : NumberForm 4 tag 3) :
      Form (tag ++ encodeDouble x) (.double x)
  | float {tag : Bytes} {x : Single} (tagged : NumberForm 4 tag 4) :
      Form (tag ++ encodeSingle x) (.float x)
  | boolean {tag : Bytes} {b : Bool} (tagged : NumberForm 4 tag 5) :
      Form (tag ++ encodeBool b) (.boolean b)
  | short {tag form : Bytes} {n : Int16} (tagged : NumberForm 4 tag 6)
      (number : SignedForm 2 form n.toInt) : Form (tag ++ form) (.short n)
  | byte {tag : Bytes} {b : UInt8} (tagged : NumberForm 4 tag 7) :
      Form (tag ++ [b]) (.byte b.toInt8)
  | char {tag : Bytes} {c : Char} (tagged : NumberForm 4 tag 8) :
      Form (tag ++ encodeChar c) (.char c)
  | bytes {tag form data : Bytes} (tagged : NumberForm 4 tag 9)
      (contents : BytesForm form data) : Form (tag ++ form) (.bytes data)

theorem finds : decoder.Finds Form := by
  apply (finds_decodeNat 4).bind
  intro number tag htag
  split
  next => exact finds_decodeString.map fun _ _ h => .string htag h
  next => exact (finds_decodeInt 4).map fun _ _ h => .int htag h.int32
  next => exact (finds_decodeInt 8).map fun _ _ h => .long htag h.int64
  next => exact finds_decodeDouble.map fun _ _ h => h ▸ .double htag
  next => exact finds_decodeSingle.map fun _ _ h => h ▸ .float htag
  next => exact finds_decodeBool.map fun _ _ h => h ▸ .boolean htag
  next => exact (finds_decodeInt 2).map fun _ _ h => .short htag h.int16
  next => exact finds_takeByte.map fun _ _ h => h ▸ .byte htag
  next => exact finds_decodeChar.map fun _ _ h => h ▸ .char htag
  next => exact finds_decodeBytes.map fun _ _ h => .bytes htag h
  next => exact .fail

namespace Form

variable {form : Bytes} {f : Field}

theorem reads (h : Form form f) : decoder.Reads form f := by
  cases h with
  | string htag h => exact htag.reads.bind (h.reads.map Field.string)
  | int htag h => exact htag.reads.bind (h.reads_int32 Field.int)
  | long htag h => exact htag.reads.bind (h.reads_int64 Field.long)
  | double htag => exact htag.reads.bind ((reads_decodeDouble _).map Field.double)
  | float htag => exact htag.reads.bind ((reads_decodeSingle _).map Field.float)
  | boolean htag => exact htag.reads.bind ((reads_decodeBool _).map Field.boolean)
  | short htag h => exact htag.reads.bind (h.reads_int16 Field.short)
  | byte htag => exact htag.reads.bind ((reads_takeByte _).map fun b => Field.byte b.toInt8)
  | char htag => exact htag.reads.bind ((reads_decodeChar _).map Field.char)
  | bytes htag h => exact htag.reads.bind (h.reads.map Field.bytes)

theorem fits (h : Form form f) : f.Fits := by
  cases h with
  | string _ h => exact h.lt
  | bytes _ h => exact h.lt
  | _ => trivial

theorem length_le (h : Form form f) : f.encode.length ≤ form.length := by
  cases h with
  | string htag h => exact length_tagged htag h.length_le 0
  | int htag h => exact length_tagged htag h.length_le 1
  | long htag h => exact length_tagged htag h.length_le 2
  | double htag => exact length_tagged htag (Nat.le_refl _) 3
  | float htag => exact length_tagged htag (Nat.le_refl _) 4
  | boolean htag => exact length_tagged htag (Nat.le_refl _) 5
  | short htag h => exact length_tagged htag h.length_le 6
  | @byte tag b htag =>
      have hle : [b.toInt8.toUInt8].length ≤ [b].length := Nat.le_refl 1
      exact length_tagged htag hle 7
  | char htag => exact length_tagged htag (Nat.le_refl _) 8
  | bytes htag h => exact length_tagged htag h.length_le 9

end Form

end Field

/-! ### Envelopes -/

namespace Body

/-- The forms of a body: a form of the tag of its kind, and a form of its contents. -/
inductive Form : Bytes → Body → Prop
  | text {tag form : Bytes} {s : String} (tagged : NumberForm 4 tag 0)
      (text : TextForm form s) : Form (tag ++ form) (.text s)
  | map {tag form : Bytes} {fields : MapBody} (tagged : NumberForm 4 tag 1)
      (inner : MapForm Field.Form form fields) : Form (tag ++ form) (.map fields)
  | object {tag form data : Bytes} (tagged : NumberForm 4 tag 2)
      (contents : BytesForm form data) : Form (tag ++ form) (.object data)

theorem finds : decoder.Finds Form := by
  apply (finds_decodeNat 4).bind
  intro number tag htag
  split
  next => exact finds_decodeString.map fun _ _ h => .text htag h
  next => exact finds_map Body.map Field.finds fun _ _ h => .map htag h
  next => exact finds_decodeBytes.map fun _ _ h => .object htag h
  next => exact .fail

namespace Form

variable {form : Bytes} {b : Body}

theorem reads (h : Form form b) : decoder.Reads form b := by
  cases h with
  | text htag h => exact htag.reads.bind (h.reads.map Body.text)
  | map htag h => exact htag.reads.bind (h.reads Body.map fun _ _ hfield _ => hfield.reads)
  | object htag h => exact htag.reads.bind (h.reads.map Body.object)

theorem fits (h : Form form b) : b.Fits := by
  cases h with
  | text _ h => exact h.lt
  | map _ h =>
      refine ⟨h.size_lt, ?_⟩
      intro entry hentry
      obtain ⟨hkey, inner, hfield, -⟩ := h.of_mem hentry
      exact ⟨hkey, hfield.fits⟩
  | object _ h => exact h.lt

theorem length_le (h : Form form b) : b.encode.length ≤ form.length := by
  cases h with
  | text htag h => exact length_tagged htag h.length_le 0
  | map htag h =>
      have hle := h.length_le Field.encode fun _ _ hfield _ => hfield.length_le
      exact length_tagged htag hle 1
  | object htag h => exact length_tagged htag h.length_le 2

end Form

end Body

namespace DeliveryMode

/-- The forms of a delivery mode are those of its tag. -/
inductive Form : Bytes → DeliveryMode → Prop
  | persistent {tag : Bytes} (tagged : NumberForm 4 tag 0) : Form tag .persistent
  | nonPersistent {tag : Bytes} (tagged : NumberForm 4 tag 1) : Form tag .nonPersistent

theorem finds : decoder.Finds Form := by
  apply (finds_decodeNat 4).bind
  intro number tag htag
  split
  next => exact .done (by rw [List.append_nil]; exact .persistent htag)
  next => exact .done (by rw [List.append_nil]; exact .nonPersistent htag)
  next => exact .fail

namespace Form

variable {form : Bytes} {mode : DeliveryMode}

theorem reads (h : Form form mode) : decoder.Reads form mode := by
  cases h with
  | persistent htag => exact htag.reads.bind_nil (.done _)
  | nonPersistent htag => exact htag.reads.bind_nil (.done _)

theorem length_le (h : Form form mode) : mode.encode.length ≤ form.length := by
  cases h with
  | persistent htag => exact htag.length_pos
  | nonPersistent htag => exact htag.length_pos

end Form

end DeliveryMode

namespace Envelope

/-- The forms of an envelope: forms of its parts, one after the other. -/
inductive Form : Bytes → Envelope → Prop
  | mk {first second third fourth : Bytes} {e : Envelope}
      (correlationId : OptionForm TextForm first e.correlationId)
      (timeToLive : NumberForm 8 second e.timeToLive.toNat)
      (deliveryMode : DeliveryMode.Form third e.deliveryMode)
      (body : Body.Form fourth e.body) :
      Form (first ++ ([e.priority] ++ (second ++ (third ++ fourth)))) e

theorem finds : decoder.Finds Form := by
  apply (finds_decodeOption finds_decodeString).bind
  intro correlationId first hid
  apply finds_takeByte.bind
  rintro priority _ rfl
  apply (finds_decodeNat 8).bind
  intro timeToLive second htime
  apply DeliveryMode.finds.bind
  intro deliveryMode third hmode
  apply Body.finds.map
  intro body fourth hbody
  have hlt : timeToLive < Nat.pow 2 64 := htime.lt (by decide)
  have htime' : NumberForm 8 second (UInt64.ofNat timeToLive).toNat := by
    rwa [UInt64.toNat_ofNat_of_lt' hlt]
  exact .mk (e := ⟨correlationId, priority, _, deliveryMode, body⟩) hid htime' hmode hbody

namespace Form

variable {form : Bytes} {e : Envelope}

theorem reads (h : Form form e) : decoder.Reads form e := by
  cases h with
  | mk hid htime hmode hbody =>
      have hbody' := hbody.reads.map fun body =>
        Envelope.mk e.correlationId e.priority (UInt64.ofNat e.timeToLive.toNat) e.deliveryMode body
      have he : Envelope.mk e.correlationId e.priority (UInt64.ofNat e.timeToLive.toNat)
          e.deliveryMode e.body = e := by rw [UInt64.ofNat_toNat]
      rw [he] at hbody'
      exact (hid.reads fun _ _ h => h.reads).bind ((reads_takeByte e.priority).bind
        (htime.reads.bind (hmode.reads.bind hbody')))

theorem fits (h : Form form e) : e.Fits := by
  cases h with
  | mk hid _ _ hbody =>
      refine ⟨?_, hbody.fits⟩
      intro id hsome
      rw [hsome] at hid
      cases hid with
      | present htext => exact htext.lt

theorem length_le (h : Form form e) : e.encode.length ≤ form.length := by
  cases h with
  | mk hid htime hmode hbody =>
      have hid' : (encodeOption encodeString e.correlationId).length ≤ _ :=
        hid.length_le fun _ _ h => h.length_le
      have htime' := htime.length_le
      have hmode' := hmode.length_le
      have hbody' := hbody.length_le
      simp only [encode, List.length_append, List.length_singleton]
      omega

end Form

end Envelope

end Sluice
