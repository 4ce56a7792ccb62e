import Mathlib.Data.List.MinMax
import Mathlib.Data.String.Basic
import Sluice.Correlation.Assigner
import Sluice.Proofs.Encoding.Objects

/-! # What dotted names lead to

A dotted name leads from map to map. Several keys of one map may begin a name: the name itself if it
is a key, and every key before one of its dots. The name leads to the value of its own key if there
is one, and otherwise through the longest key behind which the rest of the name leads somewhere. The
texts that correlation ids are made of are those to which names lead, although they are collected by
listing all values in key order, where a later text hides an earlier one.
-/

namespace Sluice

namespace Value

/-- What is left of a name behind a key and a dot, if the name begins with them. -/
def behind? (key name : String) : Option String :=
  ((key ++ ".").toList.isPrefixOf? name.toList).map String.ofList

mutual

/-- The text of what a name leads to inside a value, in which only maps have anything. -/
def resolve (name : String) : Value → Option String
  | .map entries =>
      match Keyed.findIn name entries with
      | some v => some v.display
      | none => ((detours name entries).argmax fun found => found.1.length).map Prod.snd
  | _ => none

/-- The keys before a dot of a name behind which the rest of the name leads somewhere, each with the
text to which it leads. -/
def detours (name : String) : List (String × Value) → List (String × String)
  | [] => []
  | (key, v) :: rest =>
      match (behind? key name).bind fun tail => v.resolve tail with
      | some text => (key, text) :: detours name rest
      | none => detours name rest

end

/-- The text of what a name leads to if a value stands under a key: the value itself, or what is
inside it. -/
def resolveUnder (key name : String) (v : Value) : Option String :=
  if name = key then some v.display else (behind? key name).bind fun tail => v.resolve tail

/-! ### Names behind keys -/

section Behind

variable {key key' name tail : String}

theorem behind?_eq_some_iff : behind? key name = some tail ↔ name = key ++ "." ++ tail := by
  rw [behind?, Option.map_eq_some_iff]
  constructor
  · rintro ⟨chars, hchars, rfl⟩
    rw [List.isPrefixOf?_eq_some_iff_append_eq] at hchars
    rw [← String.ofList_toList (s := name), ← hchars, String.ofList_append, String.ofList_toList]
  · rintro rfl
    refine ⟨tail.toList, ?_, String.ofList_toList⟩
    rw [List.isPrefixOf?_eq_some_iff_append_eq, ← String.toList_append]

theorem behind?_append (key tail : String) : behind? key (key ++ "." ++ tail) = some tail :=
  behind?_eq_some_iff.mpr rfl

/-- A key is not behind itself. -/
theorem behind?_self (key : String) : behind? key key = none := by
  rw [Option.eq_none_iff_forall_not_mem]
  intro tail htail
  have hlength := congrArg String.length (behind?_eq_some_iff.mp htail)
  simp only [String.length_append] at hlength
  have hdot : ".".length = 1 := by decide
  omega

/-- Behind a key with more keys to follow are the names that are behind all of them. -/
theorem behind?_path (first key name : String) :
    behind? (first ++ "." ++ key) name = (behind? first name).bind (behind? key) := by
  refine Option.ext fun tail => ?_
  rw [behind?_eq_some_iff, Option.bind_eq_some_iff]
  constructor
  · rintro rfl
    refine ⟨key ++ "." ++ tail, ?_, behind?_append key tail⟩
    rw [behind?_eq_some_iff]
    simp only [String.append_assoc]
  · rintro ⟨middle, hmiddle, htail⟩
    rw [behind?_eq_some_iff] at hmiddle htail
    rw [hmiddle, htail]
    simp only [String.append_assoc]

theorem prefix_of_behind? (h : behind? key name = some tail) : key.toList <+: name.toList := by
  rw [behind?_eq_some_iff.mp h]
  simp only [String.toList_append, List.append_assoc]
  exact List.prefix_append _ _

/-- Of two keys that begin a name the later one in key order is the longer one. -/
theorem length_lt_of_prefix (hkey : key.toList <+: name.toList)
    (hkey' : key'.toList <+: name.toList) (hlt : key < key') : key.length < key'.length := by
  by_contra hle
  obtain ⟨rest, hrest⟩ := List.prefix_of_prefix_length_le hkey' hkey (Nat.le_of_not_lt hle)
  rw [String.lt_iff_toList_lt, ← hrest] at hlt
  exact absurd hlt (List.not_lt.mpr List.le_append_left)

end Behind

/-! ### The last key is the longest -/

section Entries

variable {key name : String} {v : Value} {entries : List (String × Value)}

theorem mem_detours {found : String × String} (h : found ∈ detours name entries) :
    (∃ v, (found.1, v) ∈ entries) ∧ found.1.toList <+: name.toList := by
  induction entries with
  | nil => simp [detours] at h
  | cons head rest ih =>
      obtain ⟨key, v⟩ := head
      have hlater : found ∈ detours name rest →
          (∃ v', (found.1, v') ∈ (key, v) :: rest) ∧ found.1.toList <+: name.toList := by
        intro hmem
        obtain ⟨⟨v', hv'⟩, hprefix⟩ := ih hmem
        exact ⟨⟨v', List.mem_cons_of_mem _ hv'⟩, hprefix⟩
      rw [detours] at h
      split at h
      next text htext =>
        rcases List.mem_cons.mp h with rfl | hmem
        · obtain ⟨tail, htail, -⟩ := Option.bind_eq_some_iff.mp htext
          exact ⟨⟨v, List.mem_cons_self⟩, prefix_of_behind? htail⟩
        · exact hlater hmem
      next => exact hlater h

/-- Nothing that stands behind a key in key order begins with less of a name. -/
theorem length_lt_of_mem_detours (hhead : ∀ entry ∈ entries, key < entry.1)
    (hkey : key.toList <+: name.toList) {found : String × String}
    (h : found ∈ detours name entries) : key.length < found.1.length := by
  obtain ⟨⟨v, hmem⟩, hprefix⟩ := mem_detours h
  exact length_lt_of_prefix hkey hprefix (hhead _ hmem)

/-- In key order the last entry through which a name leads somewhere decides. -/
theorem resolve_cons (hhead : ∀ entry ∈ entries, key < entry.1) (v : Value) (name : String) :
    (Value.map ((key, v) :: entries)).resolve name =
      ((Value.map entries).resolve name).or (v.resolveUnder key name) := by
  have hnone : name = key → Keyed.findIn name entries = none := by
    rintro rfl
    exact Keyed.findIn_eq_none hhead
  rw [resolve, resolve, Keyed.findIn, resolveUnder]
  by_cases hname : name = key
  · -- a longer key than the name itself begins no part of it
    have hdetours : detours name entries = [] := by
      rw [List.eq_nil_iff_forall_not_mem]
      intro found hfound
      have hlt := length_lt_of_mem_detours hhead (hname ▸ List.prefix_rfl) hfound
      have hle := (mem_detours hfound).2.length_le
      rw [hname, String.length_toList, String.length_toList] at hle
      omega
    rw [hnone hname, hdetours, if_pos hname.symm, if_pos hname]
    rfl
  · rw [if_neg fun heq => hname heq.symm, if_neg hname]
    cases Keyed.findIn name entries with
    | some w => rfl
    | none =>
        rw [detours]
        dsimp only
        split
        next text htext =>
          obtain ⟨tail, htail, -⟩ := Option.bind_eq_some_iff.mp htext
          rw [List.argmax_cons, htext]
          cases hlongest : (detours name entries).argmax fun found => found.1.length with
          | none => rfl
          | some found =>
              have hmem := List.argmax_mem (Option.mem_def.mpr hlongest)
              have hlt := length_lt_of_mem_detours hhead (prefix_of_behind? htail) hmem
              simp [hlt]
        next hnowhere => rw [hnowhere, Option.or_none]

/-- Under more keys to follow a value is found by what is left of the name behind the first. -/
theorem resolveUnder_path (first key name : String) (v : Value) :
    v.resolveUnder (first ++ "." ++ key) name =
      (behind? first name).bind fun tail => v.resolveUnder key tail := by
  cases htail : behind? first name with
  | none =>
      have hname : name ≠ first ++ "." ++ key := by
        rintro rfl
        simp [behind?_append] at htail
      rw [resolveUnder, if_neg hname, behind?_path, htail]
      rfl
  | some tail =>
      obtain rfl := behind?_eq_some_iff.mp htail
      rw [resolveUnder, behind?_path, htail, Option.bind_some, Option.bind_some, resolveUnder]
      simp only [String.append_right_inj]

end Entries

end Value

namespace Value

/-! ### Listing all values -/

section Flatten

variable {entries : List (String × Value)} {v : Value}

/-- A text that is listed last under a name is that to which the name leads. -/
def Listed (v : Value) : Prop :=
  ∀ key name, (Keyed.ofList (v.flatten key)).get? name = v.resolveUnder key name

theorem listed_leaf (hflatten : ∀ key, v.flatten key = [(key, v.display)])
    (hresolve : ∀ name, v.resolve name = none) : v.Listed := by
  intro key name
  rw [hflatten, Keyed.get?_ofList_cons, resolveUnder]
  simp [hresolve, Keyed.ofList, Keyed.insertAll]

theorem get?_flatMap_flatten (hordered : entries.Pairwise fun a b => a.1 < b.1)
    (hlisted : ∀ v ∈ entries.map Prod.snd, v.Listed) (name : String) :
    (Keyed.ofList (entries.flatMap fun entry => entry.2.flatten entry.1)).get? name =
      (Value.map entries).resolve name := by
  induction entries with
  | nil => rfl
  | cons head rest ih =>
      obtain ⟨key, v⟩ := head
      obtain ⟨hhead, hrest⟩ := List.pairwise_cons.mp hordered
      obtain ⟨hv, hlater⟩ := List.forall_mem_cons.mp hlisted
      rw [List.flatMap_cons, Keyed.get?_ofList_append, ih hrest hlater, hv, resolve_cons hhead]

theorem get?_flattenEntries (hordered : entries.Pairwise fun a b => a.1 < b.1)
    (hlisted : ∀ v ∈ entries.map Prod.snd, v.Listed) (first name : String) :
    (Keyed.ofList (flattenEntries first entries)).get? name =
      (behind? first name).bind fun tail => (Value.map entries).resolve tail := by
  induction entries with
  | nil =>
      cases behind? first name <;> rfl
  | cons head rest ih =>
      obtain ⟨key, v⟩ := head
      obtain ⟨hhead, hrest⟩ := List.pairwise_cons.mp hordered
      obtain ⟨hv, hlater⟩ := List.forall_mem_cons.mp hlisted
      rw [flattenEntries, Keyed.get?_ofList_append, ih hrest hlater, hv, resolveUnder_path]
      cases behind? first name with
      | none => rfl
      | some tail => exact (resolve_cons hhead v tail).symm

/-- Inside a value whose maps are in key order everything is listed under the name that leads there,
and where several things are listed under a name, the last is that to which it leads. -/
theorem listed_of_ordered (v : Value) : v.Ordered → v.Listed := by
  induction v using Value.induction with
  | field f => exact fun _ => listed_leaf (fun _ => by cases f <;> rfl) fun _ => by cases f <;> rfl
  | list items => exact fun _ => listed_leaf (fun _ => rfl) fun _ => rfl
  | object o => exact fun _ => listed_leaf (fun _ => rfl) fun _ => rfl
  | map entries ih =>
      rintro ⟨hordered, hinner⟩ key name
      have hlisted : ∀ v ∈ entries.map Prod.snd, v.Listed :=
        fun v hv => ih v hv ((orderedEntries_iff entries).mp hinner v hv)
      rw [flatten, Keyed.get?_ofList_cons, get?_flattenEntries hordered hlisted, resolveUnder]
      by_cases hname : name = key
      · rw [hname, behind?_self, if_pos rfl, if_pos rfl]
        rfl
      · rw [if_neg hname, if_neg hname, Option.or_none]

end Flatten

end Value

namespace Context

/-- The texts of the values of a context are found under exactly those names that lead somewhere.
The text under a bound key is that of its own value, of which a text message is made, whatever the
names of the values inside the maps of the context are. -/
theorem model_eq_resolve (context : Context)
    (hordered : ∀ entry ∈ context.entries, entry.2.Ordered) :
    (∀ name, context.model.get? name = (Value.map context.entries).resolve name) ∧
      ∀ key v, context.get? key = some v →
        context.model.get? key = some v.display ∧
          Encoder.text key context = .ok (.text v.display) := by
  have hmodel : ∀ name, context.model.get? name = (Value.map context.entries).resolve name := by
    refine Value.get?_flatMap_flatten context.ordered fun v hv => ?_
    obtain ⟨entry, hentry, rfl⟩ := List.mem_map.mp hv
    exact entry.2.listed_of_ordered (hordered entry hentry)
  refine ⟨hmodel, fun key v hbound => ⟨?_, ?_⟩⟩
  · rw [hmodel, Value.resolve, show Keyed.findIn key context.entries = some v from hbound]
  · simp only [Encoder.text, Encoder.ofValue, hbound]

/-- Two values have the name `a.b.c`, and `a.b` is both a key and a name inside of `a`. -/
theorem model_eq_resolve_collision :
    let context : Context := (Keyed.empty.insert "a.b" (.map [("c", .string "2")])).insert "a"
      (.map [("b", .string "x"), ("b.c", .string "1")])
    context.model.get? "a.b.c" = some "2" ∧ context.model.get? "a.b" = some "\x7bc: 2\x7d" ∧
      Encoder.text "a.b" context = .ok (.text "\x7bc: 2\x7d") := by
  intro context
  have hordered : ∀ entry ∈ context.entries, entry.2.Ordered := by
    change ∀ entry ∈ [("a", Value.map [("b", .string "x"), ("b.c", .string "1")]),
      ("a.b", .map [("c", .string "2")])], entry.2.Ordered
    simp only [List.forall_mem_cons]
    exact ⟨⟨by decide, trivial, trivial, trivial⟩, ⟨by decide, trivial, trivial⟩,
      List.forall_mem_nil _⟩
  obtain ⟨hmodel, hbound⟩ := model_eq_resolve context hordered
  obtain ⟨hown, htext⟩ := hbound "a.b" (.map [("c", .string "2")]) (by simp [context])
  refine ⟨(hmodel "a.b.c").trans ?_, hown, htext⟩
  change (Value.map [("a", .map [("b", .string "x"), ("b.c", .string "1")]),
    ("a.b", .map [("c", .string "2")])]).resolve "a.b.c" = some "2"
  decide

end Context

end Sluice
