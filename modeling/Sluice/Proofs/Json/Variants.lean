import Sluice.Proofs.Json.Objects

/-! # Variants of a document

The members of an object may stand in any order. In an object that stands for a record, members that
have the value that the record starts with may be left out, and members may be added that are none
of the record's. What is read does not depend on any of that.
-/

namespace Sluice.Json

/-- Where a document may be varied. -/
inductive Form where
  /-- Not at all. -/
  | leaf
  /-- Where an object stands for a map, in the order of its members. -/
  | map
  /-- Where an object stands for a record: in the order of its members, by leaving out `defaults`, by
  adding members, and in the parts that have a form of their own. -/
  | record (defaults : List (String × Json)) (parts : List (String × Form))

/-- The form of a part of a record. -/
def formOf (parts : List (String × Form)) (name : String) : Form :=
  (Keyed.findIn name parts).getD .leaf

mutual

/-- The second of two documents is the first, but for where the form lets it vary. -/
inductive Varied : Form → Json → Json → Prop where
  | same (form : Form) (j : Json) : Varied form j j
  | map {members members' : List (String × Json)} (h : members.Perm members') :
      Varied .map (.object members) (.object members')
  | record {defaults : List (String × Json)} {parts : List (String × Form)}
      {members kept added members' : List (String × Json)}
      (hkept : Kept defaults parts members kept)
      (hadded : ∀ member ∈ added, member.1 ∉ members.map Prod.fst ∧ member.2.IsPlain)
      (h : (kept ++ added).Perm members') :
      Varied (.record defaults parts) (.object members) (.object members')

/-- The second list has those members of the first that are not left out. -/
inductive Kept : List (String × Json) → List (String × Form) → List (String × Json) →
    List (String × Json) → Prop where
  | nil {defaults : List (String × Json)} {parts : List (String × Form)} : Kept defaults parts [] []
  | leave {defaults : List (String × Json)} {parts : List (String × Form)}
      {member : String × Json} {members kept : List (String × Json)} (hdefault : member ∈ defaults)
      (h : Kept defaults parts members kept) : Kept defaults parts (member :: members) kept
  | keep {defaults : List (String × Json)} {parts : List (String × Form)}
      {member : String × Json} {members kept : List (String × Json)} {j : Json}
      (hvaried : Varied (formOf parts member.1) member.2 j) (h : Kept defaults parts members kept) :
      Kept defaults parts (member :: members) ((member.1, j) :: kept)

end

/-- The value is read from each variant of what it is written as. -/
def Faithful {α : Type} (read : Reader α) (form : Form) (j : Json) (x : α) : Prop :=
  ∀ j', Varied form j j' → read.Reads j'.renderChars x

theorem faithful_leaf {α : Type} {read : Reader α} {j : Json} {x : α}
    (h : read.Reads j.renderChars x) : Faithful read .leaf j x := by
  rintro _ ⟨⟩
  exact h

/-! ### Maps -/

theorem renderChars_object (members : List (String × Json)) (rest : List Char) :
    (Json.object members).renderChars ++ rest =
      '\x7b' :: (renderBehind true members ++ '\x7d' :: rest) := by
  change '\x7b' :: (renderMembers members ++ ['\x7d'] ++ rest) = _
  rw [List.append_assoc]
  rfl

theorem length_lt_renderBehind (members : List (String × Json)) (rest : List Char) :
    members.length < (renderBehind true members ++ '\x7d' :: rest).length + 1 := by
  have hle := length_le_renderBehind true members
  rw [List.length_append]
  omega

/-- The text of a JSON string. -/
def text : Json → String
  | .string s => s
  | _ => ""

theorem faithful_readMap (m : Keyed String) :
    Faithful (readMap readString) .map
      (.object (m.entries.map fun entry => (entry.1, .string entry.2))) m := by
  have hread : ∀ members : List (String × Json),
      (m.entries.map fun entry => (entry.1, Json.string entry.2)).Perm members →
      (readMap readString).Reads (Json.object members).renderChars m := by
    intro members hperm rest _
    have hstrings : ∀ member ∈ members, readString.Reads member.2.renderChars member.2.text := by
      intro member hmember
      obtain ⟨entry, -, rfl⟩ := List.mem_map.mp (hperm.mem_iff.mpr hmember)
      exact reads_readString entry.2
    have hentries : (members.map fun member => (member.1, member.2.text)).Perm m.entries := by
      have hmapped := hperm.symm.map fun member => (member.1, member.2.text)
      simpa [Function.comp_def, text] using hmapped
    have hrun := readEntries_renderBehind hstrings (length_lt_renderBehind members rest) true rest
    rw [renderChars_object, readMap_object hrun, Keyed.ofList_of_perm hentries]
  rintro _ (⟨⟩ | hperm)
  · exact hread _ (.refl _)
  · exact hread _ hperm

/-! ### Records -/

section

variable {σ : Type} {slots : List (Slot σ)} {defaults : List (String × Json)}
  {parts : List (String × Form)} {s blank : σ}

theorem Kept.refl (members : List (String × Json)) : Kept defaults parts members members := by
  induction members with
  | nil => exact .nil
  | cons member members ih => exact .keep (.same _ _) ih

theorem Kept.sublist {members kept : List (String × Json)} (h : Kept defaults parts members kept) :
    (kept.map Prod.fst).Sublist (members.map Prod.fst) := by
  induction members generalizing kept with
  | nil =>
      cases h
      exact .refl _
  | cons member members ih =>
      cases h with
      | leave _ h => exact .cons _ (ih h)
      | keep _ h => exact .cons_cons _ (ih h)

/-- What is kept of a record has the right values. -/
theorem Kept.fine {kept : List (String × Json)}
    (hslots : ∀ e ∈ slots, Faithful e.read (formOf parts e.name) (e.write (e.get s)) (e.get s))
    (h : Kept defaults parts (slots.map (Slot.member s)) kept) :
    ∀ member ∈ kept, ∃ e ∈ slots, e.name = member.1 ∧
      e.read.Reads member.2.renderChars (e.get s) := by
  induction slots generalizing kept with
  | nil =>
      cases h
      exact List.forall_mem_nil _
  | cons e slots ih =>
      obtain ⟨he, hslots⟩ := List.forall_mem_cons.mp hslots
      cases h with
      | leave _ h =>
          intro member hmember
          obtain ⟨e', he', hread⟩ := ih hslots h member hmember
          exact ⟨e', List.mem_cons_of_mem _ he', hread⟩
      | keep hvaried h =>
          refine List.forall_mem_cons.mpr ⟨⟨e, List.mem_cons_self, rfl, he _ hvaried⟩, ?_⟩
          intro member hmember
          obtain ⟨e', he', hread⟩ := ih hslots h member hmember
          exact ⟨e', List.mem_cons_of_mem _ he', hread⟩

/-- What is not kept of a record is one of the defaults. -/
theorem Kept.mem_defaults {kept : List (String × Json)}
    (h : Kept defaults parts (slots.map (Slot.member s)) kept) :
    ∀ e ∈ slots, e.name ∉ kept.map Prod.fst → e.member s ∈ defaults := by
  induction slots generalizing kept with
  | nil => exact List.forall_mem_nil _
  | cons e slots ih =>
      cases h with
      | leave hdefault h => exact List.forall_mem_cons.mpr ⟨fun _ => hdefault, ih h⟩
      | keep _ h =>
          refine List.forall_mem_cons.mpr ⟨fun hnot => absurd List.mem_cons_self hnot, ?_⟩
          intro e' he' hnot
          exact ih h e' he' fun hmem => hnot (List.mem_cons_of_mem _ hmem)

theorem Slot.map_fst_member : (slots.map (Slot.member s)).map Prod.fst = slots.map Slot.name := by
  rw [List.map_map]
  rfl

theorem Kept.names_sublist {kept : List (String × Json)}
    (h : Kept defaults parts (slots.map (Slot.member s)) kept) :
    (kept.map Prod.fst).Sublist (slots.map Slot.name) :=
  Slot.map_fst_member ▸ h.sublist

/-- Among members of other names, those that are found are those that are kept. -/
theorem Kept.found {kept added members : List (String × Json)}
    (h : Kept defaults parts (slots.map (Slot.member s)) kept)
    (hadded : ∀ member ∈ added, member.1 ∉ slots.map Slot.name ∧ member.2.IsPlain)
    (hperm : (kept ++ added).Perm members) :
    (Slot.found slots members).Perm (kept.map Prod.fst) := by
  have hknown : (kept.map Prod.fst).filter (· ∈ slots.map Slot.name) = kept.map Prod.fst :=
    List.filter_eq_self.mpr fun name hname => decide_eq_true (h.names_sublist.subset hname)
  have hunknown : (added.map Prod.fst).filter (· ∈ slots.map Slot.name) = [] := by
    rw [List.filter_eq_nil_iff]
    intro name hname
    obtain ⟨member, hmember, rfl⟩ := List.mem_map.mp hname
    exact fun hmem => (hadded member hmember).1 (of_decide_eq_true hmem)
  have hall := (hperm.map Prod.fst).filter (· ∈ slots.map Slot.name)
  rw [List.map_append, List.filter_append, hknown, hunknown, List.append_nil] at hall
  exact hall.symm

/-- A record is read from each variant, provided that each of its fields is, with its value in the
record and with the one that the reader starts with. -/
theorem faithful_readRecord (h : Slot.Complete slots) {required : List String}
    (hslots : ∀ e ∈ slots, Faithful e.read (formOf parts e.name) (e.write (e.get s)) (e.get s))
    (hblank : ∀ e ∈ slots, e.read.Reads (e.write (e.get blank)).renderChars (e.get blank))
    (hdefaults : ∀ member ∈ defaults, ∃ e ∈ slots, member = e.member blank ∧ e.name ∉ required)
    (hrequired : ∀ name ∈ required, name ∈ slots.map Slot.name) :
    Faithful (readRecord (slots.map Slot.field) required blank) (.record defaults parts)
      (.object (slots.map (Slot.member s))) s := by
  have hread : ∀ kept added members, Kept defaults parts (slots.map (Slot.member s)) kept →
      (∀ member ∈ added, member.1 ∉ (slots.map (Slot.member s)).map Prod.fst ∧ member.2.IsPlain) →
      (kept ++ added).Perm members →
      (readRecord (slots.map Slot.field) required blank).Reads (Json.object members).renderChars
        s := by
    intro kept added members hkept hadded hperm rest _
    rw [Slot.map_fst_member] at hadded
    have hfine : ∀ member ∈ members, Slot.Fine slots s member := by
      intro member hmember
      rcases List.mem_append.mp (hperm.mem_iff.mpr hmember) with hmem | hmem
      · exact .inl (hkept.fine hslots member hmem)
      · obtain ⟨hunknown, hplain⟩ := hadded member hmem
        exact .inr ⟨fun e he hname => hunknown (hname ▸ List.mem_map_of_mem he), hplain⟩
    have hfound := hkept.found hadded hperm
    have hnodup : (Slot.found slots members).Nodup :=
      hfound.nodup_iff.mpr (hkept.names_sublist.nodup h.nodup)
    obtain ⟨y, seen, hrun, hget, -, hseen⟩ := h.readMembers_renderBehind hfine hnodup
      (fun name _ => List.not_mem_nil) (length_lt_renderBehind members rest) true blank rest
    -- a field that is missing is one of the defaults, so the record starts with its value
    have hmissing : ∀ e ∈ slots, e.name ∉ Slot.found slots members →
        e.get s = e.get blank ∧ e.name ∉ required := by
      intro e he hnot
      have hdefault := hkept.mem_defaults e he fun hmem => hnot (hfound.mem_iff.mpr hmem)
      obtain ⟨e', he', hmember, hname⟩ := hdefaults _ hdefault
      obtain rfl := h.eq_of_name he he' (congrArg Prod.fst hmember)
      have hwrite : e.write (e.get s) = e.write (e.get blank) := congrArg Prod.snd hmember
      refine ⟨?_, hname⟩
      have hown := hslots e he _ (.same _ _)
      rw [hwrite] at hown
      exact hown.unique (hblank e he)
    have hy : y = s := by
      apply h.ext
      intro e he
      rw [hget e he]
      split
      next => rfl
      next hnot => exact (hmissing e he hnot).1.symm
    rw [renderChars_object, readRecord_object hrun, hy]
    intro name hname
    obtain ⟨e, he, rfl⟩ := List.mem_map.mp (hrequired name hname)
    by_contra hnot
    exact (hmissing e he fun hmem => hnot (hseen _ hmem)).2 hname
  rintro _ (⟨⟩ | ⟨⟩ | ⟨hkept, hadded, hperm⟩)
  · exact hread _ [] _ (.refl _) (List.forall_mem_nil _) (by rw [List.append_nil])
  · exact hread _ _ _ hkept hadded hperm

/-- A record all of whose fields can be missing. -/
theorem faithful_readRecord_of_defaults (h : Slot.Complete slots)
    (hslots : ∀ e ∈ slots, Faithful e.read (formOf parts e.name) (e.write (e.get s)) (e.get s))
    (hblank : ∀ e ∈ slots,
      Faithful e.read (formOf parts e.name) (e.write (e.get blank)) (e.get blank)) :
    Faithful (readRecord (slots.map Slot.field) [] blank)
      (.record (slots.map (Slot.member blank)) parts) (.object (slots.map (Slot.member s))) s := by
  refine faithful_readRecord h hslots (fun e he => hblank e he _ (.same _ _)) ?_
    (List.forall_mem_nil _)
  intro member hmember
  obtain ⟨e, he, rfl⟩ := List.mem_map.mp hmember
  exact ⟨e, he, rfl, List.not_mem_nil⟩

end

end Sluice.Json
