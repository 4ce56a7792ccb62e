import Sluice.Encoding
import Sluice.Proofs.Wire.Envelopes

/-! # What a map message holds

A map message has one field for each entry of the map that it is made of. The getter of a
primitive's own type gives the primitive back, no narrower and no unrelated getter answers for it,
and whatever is not a byte sequence can also be read as the text that a text message would carry.

The getters come in families: those of the integers and those of the floating-point numbers, each
ordered by width, and every other one by itself.
-/

namespace Sluice

/-- The types of the fields of a map message. -/
inductive FieldType where
  | string
  | int
  | long
  | double
  | float
  | boolean
  | short
  | byte
  | char
  | bytes
deriving DecidableEq, Repr

namespace FieldType

/-- What the getter of a type answers with. -/
@[reducible] def Carrier : FieldType → Type
  | .string => String
  | .int => Int32
  | .long => Int64
  | .double => Double
  | .float => Single
  | .boolean => Bool
  | .short => Int16
  | .byte => Int8
  | .char => Char
  | .bytes => Bytes

/-- The widest type that takes the values of a type without loss, which tells its family. -/
def widest : FieldType → FieldType
  | .byte | .short | .int | .long => .long
  | .float | .double => .double
  | t => t

/-- The bits of a number of the type; zero for a type that stands alone in its family. -/
def bits : FieldType → Nat
  | .byte => 8
  | .short => 16
  | .int | .float => 32
  | .long | .double => 64
  | _ => 0

/-- A type of another family, or a narrower one of the same. -/
def Excludes (t s : FieldType) : Prop := t.widest ≠ s.widest ∨ t.bits < s.bits

instance (t s : FieldType) : Decidable (t.Excludes s) := inferInstanceAs (Decidable (_ ∨ _))

end FieldType

/-! ### Fields -/

namespace Field

def type : Field → FieldType
  | .string _ => .string
  | .int _ => .int
  | .long _ => .long
  | .double _ => .double
  | .float _ => .float
  | .boolean _ => .boolean
  | .short _ => .short
  | .byte _ => .byte
  | .char _ => .char
  | .bytes _ => .bytes

/-- What a field holds. -/
def value : (f : Field) → f.type.Carrier
  | .string s => s
  | .int n => n
  | .long n => n
  | .double x => x
  | .float x => x
  | .boolean b => b
  | .short n => n
  | .byte n => n
  | .char c => c
  | .bytes data => data

/-- What the getter of a type answers for a field. -/
def read (f : Field) : (t : FieldType) → Option t.Carrier
  | .string => f.asString?
  | .int => f.asInt?
  | .long => f.asLong?
  | .double => f.asDouble?
  | .float => f.asFloat?
  | .boolean => f.asBoolean?
  | .short => f.asShort?
  | .byte => f.asByte?
  | .char => f.asChar?
  | .bytes => f.asBytes?

theorem read_type (f : Field) : f.read f.type = some f.value := by
  cases f <;> rfl

theorem read_of_excludes {f : Field} {t : FieldType} (hstring : t ≠ .string)
    (h : t.Excludes f.type) : f.read t = none := by
  cases f <;> cases t <;> first
    | rfl
    | exact absurd rfl hstring
    | exact absurd h (by simp only [type]; decide)

/-- The text of a field is the text of the value that it was made of, unless that is bytes. -/
theorem asString?_ofValue {w : Value} (h : ∀ data, w ≠ .bytes data) :
    (ofValue w).asString? = some w.display := by
  cases w with
  | bytes data => exact absurd rfl (h data)
  | _ => rfl

end Field

/-! ### Map bodies -/

namespace MapBody

/-- The getter of a type. -/
def read (b : MapBody) (name : String) : (t : FieldType) → Option t.Carrier
  | .string => b.getString? name
  | .int => b.getInt? name
  | .long => b.getLong? name
  | .double => b.getDouble? name
  | .float => b.getFloat? name
  | .boolean => b.getBoolean? name
  | .short => b.getShort? name
  | .byte => b.getByte? name
  | .char => b.getChar? name
  | .bytes => b.getBytes? name

theorem read_eq (b : MapBody) (name : String) (t : FieldType) :
    b.read name t = (b.get? name).bind fun f => f.read t := by
  cases t <;> rfl

/-- What a map message holds of an entry. -/
structure Carries (b : MapBody) (name : String) (w : Value) : Prop where
  /-- A primitive is read back by the getter of its own type. -/
  own : ∀ f : Field, w = f.toValue → b.read name f.type = some f.value
  /-- No narrower or unrelated getter answers for a primitive, the getter of texts apart. -/
  excluded : ∀ (f : Field) (t : FieldType), w = f.toValue → t ≠ .string → t.Excludes f.type →
    b.read name t = none
  /-- What is not bytes is read as its text, which is what a text message carries. -/
  text : (∀ data, w ≠ .bytes data) → b.getString? name = some w.display ∧
    ∀ key (context : Context), context.get? key = some w →
      Encoder.text key context = .ok (.text w.display)
  /-- Bytes are read back and have no text. -/
  bytes : ∀ data, w = .bytes data → b.getString? name = none ∧ b.getBytes? name = some data

/-- A field that was made of a value holds it. -/
theorem carries_of_get? {b : MapBody} {name : String} {w : Value}
    (h : b.get? name = some (Field.ofValue w)) : b.Carries name w where
  own f hw := by
    subst hw
    rw [read_eq, h, Field.ofValue_toValue]
    exact f.read_type
  excluded f t hw hstring hexcludes := by
    subst hw
    rw [read_eq, h, Field.ofValue_toValue]
    exact Field.read_of_excludes hstring hexcludes
  text hw := by
    refine ⟨?_, fun key context hbound => ?_⟩
    · rw [getString?, h]
      exact Field.asString?_ofValue hw
    · simp only [Encoder.text, Encoder.ofValue, hbound]
  bytes data hw := by
    subst hw
    rw [getString?, getBytes?, h]
    exact ⟨rfl, rfl⟩

end MapBody

/-! ### Map messages -/

namespace Encoder

variable {context : Context} {key : String} {v : Value}

/-- The body that is made of the entries of a map. -/
def mapBody (entries : List (String × Value)) : MapBody :=
  Keyed.ofList (entries.map fun entry => (entry.1, Field.ofValue entry.2))

theorem map_of_map {entries : List (String × Value)}
    (hbound : context.get? key = some (.map entries)) :
    map key context = .ok (.map (mapBody entries)) := by
  simp only [map, ofValue, hbound, Value.entries?, mapBody]

theorem map_of_ne_map (hbound : context.get? key = some v) (hv : ∀ entries, v ≠ .map entries) :
    map key context = .error (.typeMismatch key v.typeName) := by
  have hentries : v.entries? = none := by
    cases v with
    | map entries => exact absurd rfl (hv entries)
    | _ => rfl
  simp only [map, ofValue, hbound, hentries]

theorem entries_mapBody {entries : List (String × Value)}
    (hordered : entries.Pairwise (fun a b => a.1 < b.1)) :
    (mapBody entries).entries = entries.map fun entry => (entry.1, Field.ofValue entry.2) :=
  Keyed.entries_ofList (List.pairwise_map.mpr hordered)

theorem keys_mapBody {entries : List (String × Value)}
    (hordered : entries.Pairwise (fun a b => a.1 < b.1)) :
    (mapBody entries).keys = entries.map Prod.fst := by
  rw [Keyed.keys, entries_mapBody hordered, List.map_map]
  rfl

theorem carries_mapBody {entries : List (String × Value)}
    (hordered : entries.Pairwise (fun a b => a.1 < b.1)) {entry : String × Value}
    (hentry : entry ∈ entries) : (mapBody entries).Carries entry.1 entry.2 := by
  apply MapBody.carries_of_get?
  rw [Keyed.get?, entries_mapBody hordered, Keyed.findIn_map, Keyed.findIn_of_mem hordered hentry,
    Option.map_some]

/-- Encoding a bound value as a map message fails exactly if the value is no map, with an error that
names the key and the kind of the value. The message of a map has the keys of the map and holds
every entry of it. -/
theorem map_lossless (hbound : context.get? key = some v) (hordered : v.Ordered) :
    ((∃ e, map key context = .error e) ↔ ∀ entries, v ≠ .map entries) ∧
      (∀ e, map key context = .error e → e = .typeMismatch key v.typeName) ∧
      ∀ entries, v = .map entries →
        ∃ body, map key context = .ok (.map body) ∧ body.keys = entries.map Prod.fst ∧
          ∀ entry ∈ entries, body.Carries entry.1 entry.2 := by
  by_cases hv : ∃ entries, v = .map entries
  · obtain ⟨entries, rfl⟩ := hv
    have hmap := map_of_map hbound
    have hok : ∀ e, map key context ≠ .error e := by simp [hmap]
    refine ⟨⟨fun ⟨e, he⟩ => absurd he (hok e), fun h => absurd rfl (h entries)⟩,
      fun e he => absurd he (hok e), fun entries' heq => ?_⟩
    obtain rfl := Value.map.inj heq
    exact ⟨mapBody entries, hmap, keys_mapBody hordered.1,
      fun entry hentry => carries_mapBody hordered.1 hentry⟩
  · rw [not_exists] at hv
    have hmap := map_of_ne_map hbound hv
    refine ⟨⟨fun _ => hv, fun _ => ⟨_, hmap⟩⟩, fun e he => ?_,
      fun entries heq => absurd heq (hv entries)⟩
    exact Except.error.inj (he.symm.trans hmap)

/-- A float that is not a number, a short, bytes, and a list that holds a map. -/
theorem map_lossless_mixed :
    let order : Value := .map [
      ("data", .bytes [1, 255]), ("lines", .list [.map [("n", .byte (-3))], .boolean true]),
      ("price", .float ⟨0x7fc00001⟩), ("size", .short (-2))]
    let context : Context := Keyed.empty.insert "order" order
    context.get? "order" = some order ∧ order.Ordered ∧
      ∃ body, map "order" context = .ok (.map body) ∧
        body.keys = ["data", "lines", "price", "size"] ∧
        body.getFloat? "price" = some ⟨0x7fc00001⟩ ∧ body.getByte? "size" = none ∧
        body.getString? "lines" = some "[\x7bn: -3\x7d, true]" ∧
        body.getString? "data" = none ∧ body.getBytes? "data" = some [1, 255] := by
  intro order context
  have hbound : context.get? "order" = some order := by simp [context]
  have hordered : order.Ordered := by
    refine ⟨by decide, ?_⟩
    exact ⟨trivial, ⟨⟨by decide, trivial, trivial⟩, trivial, trivial⟩, trivial, trivial, trivial⟩
  obtain ⟨-, -, hbody⟩ := map_lossless hbound hordered
  obtain ⟨body, hmap, hkeys, hentries⟩ := hbody _ rfl
  simp only [List.forall_mem_cons] at hentries
  obtain ⟨hdata, hlines, hprice, hsize, -⟩ := hentries
  refine ⟨hbound, hordered, body, hmap, hkeys, hprice.own (.float _) rfl,
    hsize.excluded (.short _) .byte rfl (by decide) (by decide), ?_, hdata.bytes _ rfl⟩
  exact (hlines.text (by simp)).1.trans (by decide)

end Encoder

end Sluice
