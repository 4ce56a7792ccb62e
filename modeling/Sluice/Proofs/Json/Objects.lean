import Sluice.Proofs.Json.Reading
import Sluice.Proofs.Keyed

/-! # Printed objects are read back

A map is read whatever the order of its members. A record is read whatever the order of its members,
whatever unknown members stand among them, and, as far as its fields start with the right values,
whichever of them are missing.
-/

namespace Sluice

namespace Json

/-! ### Members -/

def renderMember (member : String × Json) : List Char :=
  renderString member.1 ++ ':' :: member.2.renderChars

/-- The members that are still to come: the first of an object stands without a comma. -/
def renderBehind (first : Bool) (members : List (String × Json)) : List Char :=
  if first then renderMembers members
  else members.flatMap fun member => ',' :: renderMember member

theorem renderMembers_cons (member : String × Json) (members : List (String × Json)) :
    renderMembers (member :: members) = renderMember member ++ renderBehind false members := by
  induction members generalizing member with
  | nil => exact (List.append_nil _).symm
  | cons next members ih =>
      rw [renderMembers, ih]
      · simp [renderBehind, renderMember]
      · simp

theorem length_le_renderBehind (first : Bool) (members : List (String × Json)) :
    members.length ≤ (renderBehind first members).length := by
  have hmore : ∀ members : List (String × Json),
      members.length ≤ (renderBehind false members).length := by
    intro members
    induction members with
    | nil => exact Nat.le_refl 0
    | cons member members ih =>
        rw [renderBehind, if_neg (by decide)] at ih ⊢
        rw [List.flatMap_cons, List.length_append, List.length_cons, List.length_cons]
        omega
  cases first with
  | false => exact hmore members
  | true =>
      cases members with
      | nil => exact Nat.zero_le _
      | cons member members =>
          have hle := hmore members
          rw [renderBehind, if_pos rfl, renderMembers_cons, renderMember, renderString]
          simp only [List.length_append, List.length_cons]
          omega

theorem ends_renderBehind (members : List (String × Json)) (rest : List Char) :
    Ends (renderBehind false members ++ '\x7d' :: rest) := by
  cases members with
  | nil => exact .inr rfl
  | cons member members => exact .inl rfl

theorem nextKey_nil (first : Bool) (rest : List Char) :
    nextKey first (renderBehind first [] ++ '\x7d' :: rest) = .ok (false, '\x7d' :: rest) := by
  cases first <;> rfl

theorem nextKey_cons (first : Bool) (member : String × Json) (members : List (String × Json))
    (rest : List Char) :
    nextKey first (renderBehind first (member :: members) ++ rest) =
      .ok (true, renderString member.1 ++
        ':' :: (member.2.renderChars ++ (renderBehind false members ++ rest))) := by
  cases first with
  | true =>
      rw [renderBehind, if_pos rfl, renderMembers_cons, renderMember]
      simp only [List.append_assoc, List.cons_append]
      rfl
  | false =>
      rw [renderBehind, if_neg (by decide), List.flatMap_cons, renderMember]
      simp only [List.append_assoc, List.cons_append]
      rfl

theorem readColon_cons (rest : List Char) : readColon (':' :: rest) = .ok ((), rest) := rfl

/-! ### Maps -/

theorem readEntries_renderBehind {α : Type} {value : Reader α} {f : Json → α}
    {members : List (String × Json)} (h : ∀ member ∈ members,
      value.Reads member.2.renderChars (f member.2))
    {work : Nat} (hwork : members.length < work) (first : Bool) (rest : List Char) :
    readEntries value work first (renderBehind first members ++ '\x7d' :: rest) =
      .ok (members.map fun member => (member.1, f member.2), '\x7d' :: rest) := by
  induction members generalizing work first with
  | nil =>
      obtain ⟨work, rfl⟩ := Nat.exists_eq_succ_of_ne_zero (Nat.ne_of_gt hwork)
      rw [readEntries, bind_of_ok (nextKey_nil first rest)]
      rfl
  | cons member members ih =>
      obtain ⟨work, rfl⟩ := Nat.exists_eq_succ_of_ne_zero (Nat.ne_of_gt (Nat.zero_lt_of_lt hwork))
      obtain ⟨hmember, hmembers⟩ := List.forall_mem_cons.mp h
      rw [readEntries, bind_of_ok (nextKey_cons ..), if_pos rfl, bind_of_ok (readString_append ..),
        bind_of_ok (readColon_cons _), bind_of_ok (hmember _ (ends_renderBehind members rest)),
        bind_of_ok (ih hmembers (Nat.lt_of_succ_lt_succ hwork) false)]
      rfl

theorem readMap_object {α : Type} {value : Reader α} {entries : List (String × α)}
    {cs rest : List Char}
    (h : readEntries value (cs.length + 1) true cs = .ok (entries, '\x7d' :: rest)) :
    readMap value ('\x7b' :: cs) = .ok (Keyed.ofList entries, rest) := by
  rw [readMap, token?_bind rfl]
  change (readEntries value (cs.length + 1) true cs >>= fun found =>
    (endObject >>= fun _ => pure (Keyed.ofList found.1) : Reader (Keyed α)) found.2) = _
  rw [h]
  rfl

/-! ### Records -/

theorem readRecord_object {σ : Type} {fields : List (RecordField σ)} {required seen : List String}
    {blank x : σ} {cs rest : List Char}
    (h : readMembers fields (cs.length + 1) true [] blank cs = .ok ((x, seen), '\x7d' :: rest))
    (hrequired : ∀ name ∈ required, name ∈ seen) :
    readRecord fields required blank ('\x7b' :: cs) = .ok (x, rest) := by
  have hall : required.all (· ∈ seen) = true := by simpa using hrequired
  rw [readRecord, token?_bind rfl]
  change (readMembers fields (cs.length + 1) true [] blank cs >>= fun found =>
    (if required.all (· ∈ found.1.2) then endObject >>= fun _ => pure found.1.1
      else Reader.fail .data : Reader σ) found.2) = _
  rw [h]
  change (if required.all (· ∈ seen) then endObject >>= fun _ => pure x
    else Reader.fail .data : Reader σ) _ = _
  rw [if_pos hall]
  rfl

/-- A field of a record: how it is taken out of the record and put into it, and how its value is
written and read. -/
structure Slot (σ : Type) where
  name : String
  Value : Type
  get : σ → Value
  set : σ → Value → σ
  write : Value → Json
  read : Reader Value

namespace Slot

variable {σ : Type}

/-- The field as the reader of the record takes it. -/
def field (e : Slot σ) : RecordField σ := ⟨e.name, fun x => do return e.set x (← e.read)⟩

/-- The member that stands for the field. -/
def member (x : σ) (e : Slot σ) : String × Json := (e.name, e.write (e.get x))

/-- The fields of a record are independent of each other, and there are no others. -/
structure Complete (slots : List (Slot σ)) : Prop where
  nodup : (slots.map name).Nodup
  get_set : ∀ e ∈ slots, ∀ x v, e.get (e.set x v) = v
  get_set_of_ne : ∀ e ∈ slots, ∀ e' ∈ slots, e.name ≠ e'.name → ∀ x v, e'.get (e.set x v) = e'.get x
  ext : ∀ x y, (∀ e ∈ slots, e.get x = e.get y) → x = y

variable {slots : List (Slot σ)}

theorem Complete.eq_of_name (h : Complete slots) {e e' : Slot σ} (he : e ∈ slots) (he' : e' ∈ slots)
    (hname : e.name = e'.name) : e = e' :=
  List.inj_on_of_nodup_map h.nodup he he' hname

theorem Complete.find?_eq (h : Complete slots) {e : Slot σ} (he : e ∈ slots) :
    (slots.map field).find? (fun f => f.name = e.name) = some e.field := by
  cases hfind : (slots.map field).find? (fun f => f.name = e.name) with
  | none =>
      rw [List.find?_eq_none] at hfind
      exact absurd (decide_eq_true rfl) (hfind e.field (List.mem_map_of_mem he))
  | some f =>
      obtain ⟨e', he', rfl⟩ := List.mem_map.mp (List.mem_of_find?_eq_some hfind)
      have hname := List.find?_some hfind
      rw [h.eq_of_name he' he (of_decide_eq_true hname)]

theorem find?_eq_none {key : String} (h : ∀ e ∈ slots, e.name ≠ key) :
    (slots.map field).find? (fun f => f.name = key) = none := by
  rw [List.find?_eq_none]
  intro f hf
  obtain ⟨e, he, rfl⟩ := List.mem_map.mp hf
  exact fun hname => h e he (of_decide_eq_true hname)

/-- The fields that stand among the members. -/
def found (slots : List (Slot σ)) (members : List (String × Json)) : List String :=
  (members.map Prod.fst).filter (· ∈ slots.map name)

/-- A member of a record is a field with the right value or something that nobody asks for. -/
def Fine (slots : List (Slot σ)) (s : σ) (member : String × Json) : Prop :=
  (∃ e ∈ slots, e.name = member.1 ∧ e.read.Reads member.2.renderChars (e.get s)) ∨
    ((∀ e ∈ slots, e.name ≠ member.1) ∧ member.2.IsPlain)

theorem found_of_known {e : Slot σ} (he : e ∈ slots) {member : String × Json}
    (hname : e.name = member.1) (members : List (String × Json)) :
    found slots (member :: members) = member.1 :: found slots members := by
  have hknown : member.1 ∈ slots.map name := hname ▸ List.mem_map_of_mem he
  rw [found, List.map_cons, List.filter_cons_of_pos (by simpa using hknown)]
  rfl

theorem found_of_unknown {member : String × Json} (h : ∀ e ∈ slots, e.name ≠ member.1)
    (members : List (String × Json)) : found slots (member :: members) = found slots members := by
  have hunknown : member.1 ∉ slots.map name := by
    intro hmem
    obtain ⟨e, he, hname⟩ := List.mem_map.mp hmem
    exact h e he hname
  rw [found, List.map_cons, List.filter_cons_of_neg (by simpa using hunknown)]
  rfl

/-- The fields behind one that took on its value. -/
theorem Complete.get_of_set (h : Complete slots) {e : Slot σ} (he : e ∈ slots) {s x y : σ}
    {names : List String}
    (hy : ∀ e' ∈ slots, e'.get y =
      if e'.name ∈ names then e'.get s else e'.get (e.set x (e.get s))) :
    ∀ e' ∈ slots, e'.get y = if e'.name ∈ e.name :: names then e'.get s else e'.get x := by
  intro e' he'
  rw [hy e' he']
  by_cases hlater : e'.name ∈ names
  · rw [if_pos hlater, if_pos (List.mem_cons_of_mem _ hlater)]
  · rw [if_neg hlater]
    by_cases hsame : e'.name = e.name
    · obtain rfl := h.eq_of_name he' he hsame
      rw [if_pos List.mem_cons_self, h.get_set _ he]
    · have hother : e'.name ∉ e.name :: names := by simp [hsame, hlater]
      rw [if_neg hother]
      exact h.get_set_of_ne e he e' he' (Ne.symm hsame) x _

/-- Each field that is found takes on its value, in whatever order, and the others stay. -/
theorem Complete.readMembers_renderBehind (h : Complete slots) {s : σ}
    {members : List (String × Json)} (hfine : ∀ member ∈ members, Fine slots s member)
    {seen : List String} (hnodup : (found slots members).Nodup)
    (hseen : ∀ name ∈ found slots members, name ∉ seen) {work : Nat}
    (hwork : members.length < work) (first : Bool) (x : σ) (rest : List Char) :
    ∃ y seen', readMembers (slots.map field) work first seen x
        (renderBehind first members ++ '\x7d' :: rest) = .ok ((y, seen'), '\x7d' :: rest) ∧
      (∀ e ∈ slots, e.get y = if e.name ∈ found slots members then e.get s else e.get x) ∧
      (∀ name ∈ seen, name ∈ seen') ∧ ∀ name ∈ found slots members, name ∈ seen' := by
  induction members generalizing seen work first x with
  | nil =>
      obtain ⟨work, rfl⟩ := Nat.exists_eq_succ_of_ne_zero (Nat.ne_of_gt hwork)
      refine ⟨x, seen, ?_, fun _ _ => rfl, fun _ hname => hname, fun _ hname => nomatch hname⟩
      rw [readMembers, bind_of_ok (nextKey_nil first rest)]
      rfl
  | cons member members ih =>
      obtain ⟨work, rfl⟩ := Nat.exists_eq_succ_of_ne_zero (Nat.ne_of_gt (Nat.zero_lt_of_lt hwork))
      obtain ⟨hmember, hmembers⟩ := List.forall_mem_cons.mp hfine
      have hless := Nat.lt_of_succ_lt_succ hwork
      rcases hmember with ⟨e, he, hname, hread⟩ | ⟨hunknown, hplain⟩
      · rw [found_of_known he hname, ← hname] at hnodup hseen ⊢
        obtain ⟨hfresh, hnodup⟩ := List.nodup_cons.mp hnodup
        obtain ⟨hnew, hseen⟩ := List.forall_mem_cons.mp hseen
        -- a field found now is seen from here on, and is not found again further behind
        have hseen' : ∀ name ∈ found slots members, name ∉ e.name :: seen := by
          intro name hmem hin
          rcases List.mem_cons.mp hin with rfl | hin
          · exact hfresh hmem
          · exact hseen name hmem hin
        obtain ⟨y, seen', hrun, hget, hkept, hadded⟩ :=
          ih hmembers hnodup hseen' hless false (e.set x (e.get s))
        refine ⟨y, seen', ?_, h.get_of_set he hget,
          fun name hmem => hkept name (List.mem_cons_of_mem _ hmem),
          List.forall_mem_cons.mpr ⟨hkept _ List.mem_cons_self, hadded⟩⟩
        have hset : e.field.read x (member.2.renderChars ++ (renderBehind false members ++
            '\x7d' :: rest)) = .ok (e.set x (e.get s), renderBehind false members ++ '\x7d' :: rest) :=
          hread.map (e.set x) _ (ends_renderBehind members rest)
        rw [readMembers, bind_of_ok (nextKey_cons ..), if_pos rfl, bind_of_ok (readString_append ..),
          ← hname, h.find?_eq he]
        dsimp only
        rw [if_neg hnew, bind_of_ok (readColon_cons _), bind_of_ok hset, hrun]
      · rw [found_of_unknown hunknown] at hnodup hseen ⊢
        obtain ⟨y, seen', hrun, hrest⟩ := ih hmembers hnodup hseen hless false x
        refine ⟨y, seen', ?_, hrest⟩
        rw [readMembers, bind_of_ok (nextKey_cons ..), if_pos rfl, bind_of_ok (readString_append ..),
          find?_eq_none hunknown]
        dsimp only
        rw [bind_of_ok (readColon_cons _), bind_of_ok (skip_of_isPlain hplain _), hrun]

end Slot

end Json

end Sluice
