import Mathlib.Data.List.Forall2
import Sluice.Encoding
import Sluice.Proofs.Wire.Payloads
import Sluice.Proofs.Wire.Scalars

/-! # Object messages are faithful

A value becomes an object message if and only if each application object in it can be serialized. The
message is then read as the payload that follows the value node for node, and a scalar that was an
object of the value is decoded out of its node. Otherwise the first object that cannot be serialized
says why: lists are searched in their order and maps in key order.
-/

namespace Sluice

/-! ### Nodes of a value -/

namespace Value

mutual

/-- A value and all that stand inside it, each before those inside it. -/
def nodes : Value → List Value
  | .list items => .list items :: nodesOfItems items
  | .map entries => .map entries :: nodesOfEntries entries
  | v => [v]

/-- The nodes of the items of a list. -/
def nodesOfItems : List Value → List Value
  | [] => []
  | v :: rest => v.nodes ++ nodesOfItems rest

/-- The nodes of the entries of a map. -/
def nodesOfEntries : List (String × Value) → List Value
  | [] => []
  | (_, v) :: rest => v.nodes ++ nodesOfEntries rest

end

/-- The application object that a value is; none if it is a primitive, a list or a map. -/
def object? : Value → Option AppObject
  | .object o => some o
  | _ => none

/-- The application objects inside a value, in the order in which its nodes stand. -/
def objects (v : Value) : List AppObject := v.nodes.filterMap object?

theorem nodesOfItems_eq (items : List Value) : nodesOfItems items = items.flatMap nodes := by
  induction items with
  | nil => rfl
  | cons v rest ih => rw [nodesOfItems, List.flatMap_cons, ih]

theorem nodesOfEntries_eq (entries : List (String × Value)) :
    nodesOfEntries entries = (entries.map Prod.snd).flatMap nodes := by
  induction entries with
  | nil => rfl
  | cons entry rest ih => rw [nodesOfEntries, List.map_cons, List.flatMap_cons, ih]

theorem objects_list (items : List Value) :
    (Value.list items).objects = items.flatMap objects := by
  change (nodesOfItems items).filterMap object? = _
  rw [nodesOfItems_eq, List.filterMap_flatMap]
  rfl

theorem objects_map (entries : List (String × Value)) :
    (Value.map entries).objects = (entries.map Prod.snd).flatMap objects := by
  change (nodesOfEntries entries).filterMap object? = _
  rw [nodesOfEntries_eq, List.filterMap_flatMap]
  rfl

theorem orderedItems_iff (items : List Value) : OrderedItems items ↔ ∀ v ∈ items, v.Ordered := by
  induction items with
  | nil => simp [OrderedItems]
  | cons v rest ih => simp [OrderedItems, ih]

theorem orderedEntries_iff (entries : List (String × Value)) :
    OrderedEntries entries ↔ ∀ v ∈ entries.map Prod.snd, v.Ordered := by
  induction entries with
  | nil => simp [OrderedEntries]
  | cons entry rest ih => simp [OrderedEntries, ih]

/-- What holds of primitives and objects, and of lists and maps if it holds of what they list, holds
of every value. -/
@[elab_as_elim]
theorem induction {motive : Value → Prop} (field : ∀ f : Field, motive f.toValue)
    (list : ∀ items, (∀ v ∈ items, motive v) → motive (.list items))
    (map : ∀ entries, (∀ v ∈ entries.map Prod.snd, motive v) → motive (.map entries))
    (object : ∀ o, motive (.object o)) (v : Value) : motive v := by
  refine @Value.rec motive (fun items => ∀ v ∈ items, motive v)
    (fun entries => ∀ v ∈ entries.map Prod.snd, motive v) (fun entry => motive entry.2)
    (fun s => field (.string s)) (fun n => field (.int n)) (fun n => field (.long n))
    (fun x => field (.double x)) (fun x => field (.float x)) (fun b => field (.boolean b))
    (fun n => field (.short n)) (fun n => field (.byte n)) (fun c => field (.char c))
    (fun data => field (.bytes data)) list map object ?_ ?_ ?_ ?_ (fun _ _ ih => ih) v
  · exact List.forall_mem_nil _
  · exact fun _ _ hfirst hrest => List.forall_mem_cons.mpr ⟨hfirst, hrest⟩
  · exact List.forall_mem_nil _
  · exact fun _ _ hfirst hrest => List.forall_mem_cons.mpr ⟨hfirst, hrest⟩

/-- A payload that follows a value node for node: the same primitives, lists in the same order, maps
with the same keys, and objects by their type name and their serialized form. -/
inductive FollowedBy : Value → Payload → Prop where
  | field {f : Field} {p : Payload} (h : p.field? = some f) : FollowedBy f.toValue p
  | list {items : List Value} {payloads : List Payload}
      (h : List.Forall₂ FollowedBy items payloads) : FollowedBy (.list items) (.list payloads)
  | map {entries : List (String × Value)} {payloads : List (String × Payload)}
      (hkeys : entries.map Prod.fst = payloads.map Prod.fst)
      (h : List.Forall₂ FollowedBy (entries.map Prod.snd) (payloads.map Prod.snd)) :
      FollowedBy (.map entries) (.map payloads)
  | object {o : AppObject} {data : Bytes} (h : o.serialized = some (.ok data)) :
      FollowedBy (.object o) (.object o.typeName data)

end Value

namespace Value

/-! ### Following a value -/

theorem FollowedBy.induction {motive : Value → Payload → Prop}
    (field : ∀ f p, p.field? = some f → motive f.toValue p)
    (list : ∀ items payloads, List.Forall₂ (fun v p => FollowedBy v p ∧ motive v p) items payloads →
      motive (.list items) (.list payloads))
    (map : ∀ entries payloads, entries.map Prod.fst = payloads.map Prod.fst →
      List.Forall₂ (fun v p => FollowedBy v p ∧ motive v p)
        (entries.map Prod.snd) (payloads.map Prod.snd) →
      motive (.map entries) (.map payloads))
    (object : ∀ o data, o.serialized = some (.ok data) →
      motive (.object o) (.object o.typeName data))
    {v : Value} {p : Payload} (h : v.FollowedBy p) : motive v p :=
  @FollowedBy.rec (fun v p _ => motive v p)
    (fun items payloads _ => List.Forall₂ (fun v p => FollowedBy v p ∧ motive v p) items payloads)
    (fun h => field _ _ h) (fun _ ih => list _ _ ih) (fun hkeys _ ih => map _ _ hkeys ih)
    (fun h => object _ _ h) .nil (fun h _ ih ihrest => .cons ⟨h, ih⟩ ihrest) v p h

theorem forall_of_forall₂ {α β : Type} {R : α → β → Prop} {P : α → Prop} {Q : β → Prop}
    {xs : List α} {ys : List β} (h : List.Forall₂ R xs ys) (hR : ∀ x y, R x y → P x → Q y)
    (hP : ∀ x ∈ xs, P x) : ∀ y ∈ ys, Q y := by
  induction h with
  | nil => exact List.forall_mem_nil _
  | cons hxy _ ih =>
      obtain ⟨hx, hrest⟩ := List.forall_mem_cons.mp hP
      exact List.forall_mem_cons.mpr ⟨hR _ _ hxy hx, ih hrest⟩

theorem nodes_toValue (f : Field) : f.toValue.nodes = [f.toValue] := by
  cases f <;> rfl

theorem nodes_of_field? {f : Field} {p : Payload} (h : p.field? = some f) : p.nodes = [p] := by
  cases p <;> first | rfl | cases h

namespace FollowedBy

variable {v : Value} {p : Payload}

theorem nodes (h : v.FollowedBy p) : List.Forall₂ FollowedBy v.nodes p.nodes := by
  refine FollowedBy.induction (motive := fun v p => List.Forall₂ FollowedBy v.nodes p.nodes)
    ?field ?list ?map ?object h
  case field =>
    intro f p h
    rw [nodes_toValue, nodes_of_field? h]
    exact .cons (.field h) .nil
  case list =>
    intro items payloads h
    refine .cons (.list (h.imp fun _ _ h => h.1)) ?_
    rw [nodesOfItems_eq, Payload.nodesOfItems_eq]
    exact List.rel_flatMap h fun _ _ h => h.2
  case map =>
    intro entries payloads hkeys h
    refine .cons (.map hkeys (h.imp fun _ _ h => h.1)) ?_
    rw [nodesOfEntries_eq, Payload.nodesOfEntries_eq]
    exact List.rel_flatMap h fun _ _ h => h.2
  case object => exact fun o data h => .cons (.object h) .nil

theorem ordered (h : v.FollowedBy p) : v.Ordered → p.Ordered := by
  refine FollowedBy.induction (motive := fun v p => v.Ordered → p.Ordered)
    ?field ?list ?map ?object h
  case field =>
    intro f p h _
    cases p <;> trivial
  case list =>
    intro items payloads h hordered
    exact (Payload.orderedItems_iff payloads).mpr
      (forall_of_forall₂ h (fun _ _ h => h.2) ((orderedItems_iff items).mp hordered))
  case map =>
    intro entries payloads hkeys h hordered
    obtain ⟨hpairwise, hinner⟩ := hordered
    refine ⟨?_, (Payload.orderedEntries_iff payloads).mpr
      (forall_of_forall₂ h (fun _ _ h => h.2) ((orderedEntries_iff entries).mp hinner))⟩
    have hstrict : (entries.map Prod.fst).Pairwise (· < ·) := List.pairwise_map.mpr hpairwise
    rw [hkeys] at hstrict
    exact List.pairwise_map.mp hstrict
  case object => exact fun _ _ _ _ => trivial

end FollowedBy

end Value

/-! ### The first object that cannot be serialized -/

/-- Why an object cannot become part of a payload; none if it can. -/
def AppObject.fault? (o : AppObject) : Option ObjectFault :=
  match o.serialized with
  | none => some (.notSerializable o.typeName)
  | some (.error reason) => some (.serialization reason)
  | some (.ok _) => none

namespace AppObject

/-- The object has a serializer, and the serializer succeeds. -/
def IsSerialized (o : AppObject) : Prop := ∃ data, o.serialized = some (.ok data)

theorem fault?_eq_none_iff (o : AppObject) : o.fault? = none ↔ o.IsSerialized := by
  unfold fault? IsSerialized
  split <;> simp [*]

/-- The encoding error of a fault is about the key and the object. -/
theorem exists_fault_iff (o : AppObject) (key : String) (e : EncodingError) :
    (∃ fault, o.fault? = some fault ∧ e = fault.under key) ↔
      (o.serialized = none ∧ e = .notSerializable key o.typeName) ∨
        ∃ reason, o.serialized = some (.error reason) ∧ e = .serialization key reason := by
  unfold fault?
  split <;> simp [*, ObjectFault.under]

end AppObject

namespace Payload

/-- The first of the objects that has a fault is reported; if none has, there is a result and it is
good. -/
def Reports {α : Type} (objects : List AppObject) (good : α → Prop)
    (result : Except ObjectFault α) : Prop :=
  match objects.findSome? AppObject.fault? with
  | some fault => result = .error fault
  | none => ∃ x, result = .ok x ∧ good x

namespace Reports

variable {α β γ : Type} {objects behind : List AppObject} {good : α → Prop} {good' : β → Prop}
  {best : γ → Prop} {result : Except ObjectFault α} {result' : Except ObjectFault β}

theorem map {f : α → γ} (h : Reports objects good result) (hf : ∀ x, good x → best (f x)) :
    Reports objects best (result.map f) := by
  unfold Reports at h ⊢
  split at h
  next => rw [h, Except.map]
  next =>
    obtain ⟨x, rfl, hx⟩ := h
    exact ⟨f x, rfl, hf x hx⟩

/-- What stands behind is looked at only when there is no fault in front of it. -/
theorem cons {f : α → β → γ} (h : Reports objects good result) (h' : Reports behind good' result')
    (hf : ∀ x y, good x → good' y → best (f x y)) :
    Reports (objects ++ behind) best (result.bind fun x => result'.map (f x)) := by
  unfold Reports at h
  rw [Reports, List.findSome?_append]
  split at h
  next fault hfault =>
    rw [h, hfault, Option.some_or]
    rfl
  next hnone =>
    obtain ⟨x, rfl, hx⟩ := h
    rw [hnone, Option.none_or]
    exact h'.map fun y hy => hf x y hx hy

end Reports

theorem ofItems_cons (v : Value) (rest : List Value) :
    ofItems (v :: rest) = (ofValue v).bind fun p => (ofItems rest).map (p :: ·) := by
  rw [ofItems]
  cases ofValue v <;> rfl

theorem ofEntries_cons (key : String) (v : Value) (rest : List (String × Value)) :
    ofEntries ((key, v) :: rest) =
      (ofValue v).bind fun p => (ofEntries rest).map ((key, p) :: ·) := by
  rw [ofEntries]
  cases ofValue v <;> rfl

theorem reports_ofItems {items : List Value}
    (h : ∀ v ∈ items, Reports v.objects v.FollowedBy (ofValue v)) :
    Reports (items.flatMap Value.objects) (List.Forall₂ Value.FollowedBy items) (ofItems items) := by
  induction items with
  | nil => exact ⟨[], rfl, .nil⟩
  | cons v rest ih =>
      obtain ⟨hfirst, hrest⟩ := List.forall_mem_cons.mp h
      rw [List.flatMap_cons, ofItems_cons]
      exact hfirst.cons (ih hrest) fun p ps hp hps => List.Forall₂.cons hp hps

theorem reports_ofEntries {entries : List (String × Value)}
    (h : ∀ v ∈ entries.map Prod.snd, Reports v.objects v.FollowedBy (ofValue v)) :
    Reports ((entries.map Prod.snd).flatMap Value.objects)
      (fun payloads => entries.map Prod.fst = payloads.map Prod.fst ∧
        List.Forall₂ Value.FollowedBy (entries.map Prod.snd) (payloads.map Prod.snd))
      (ofEntries entries) := by
  induction entries with
  | nil => exact ⟨[], rfl, rfl, .nil⟩
  | cons entry rest ih =>
      obtain ⟨key, v⟩ := entry
      obtain ⟨hfirst, hrest⟩ := List.forall_mem_cons.mp h
      rw [List.map_cons, List.flatMap_cons, ofEntries_cons]
      refine hfirst.cons (ih hrest) fun p ps hp hps => ?_
      exact ⟨congrArg (key :: ·) hps.1, .cons hp hps.2⟩

theorem reports_ofValue (v : Value) : Reports v.objects v.FollowedBy (ofValue v) := by
  induction v using Value.induction with
  | field f =>
      cases f <;> exact ⟨_, rfl, .field rfl⟩
  | list items ih =>
      rw [Value.objects_list, ofValue]
      exact (reports_ofItems ih).map fun ps hps => .list hps
  | map entries ih =>
      rw [Value.objects_map, ofValue]
      exact (reports_ofEntries ih).map fun ps hps => .map hps.1 hps.2
  | object o =>
      have hobjects : (Value.object o).objects.findSome? AppObject.fault? = o.fault? := by
        change [o].findSome? AppObject.fault? = _
        cases hfault : o.fault? <;> simp [hfault]
      rw [Reports, hobjects, AppObject.fault?, ofValue]
      cases hserialized : o.serialized with
      | none => rfl
      | some outcome =>
          cases outcome with
          | error reason => rfl
          | ok data => exact ⟨_, rfl, .object hserialized⟩

end Payload

/-! ### Sizes -/

namespace Value

/-- The sizes of a node and of what its serializer returns, without those of the nodes inside it,
can be counted in 64 bits. -/
def FitsAlone : Value → Prop
  | .string s => s.utf8ByteSize < Nat.pow 2 64
  | .bytes data => data.length < Nat.pow 2 64
  | .list items => items.length < Nat.pow 2 64
  | .map entries =>
      entries.length < Nat.pow 2 64 ∧ ∀ entry ∈ entries, entry.1.utf8ByteSize < Nat.pow 2 64
  | .object o =>
      o.typeName.utf8ByteSize < Nat.pow 2 64 ∧
        ∀ data, o.serialized = some (.ok data) → data.length < Nat.pow 2 64
  | _ => True

/-- The sizes of all that a value holds can be counted in 64 bits. -/
def Fits (v : Value) : Prop := ∀ w ∈ v.nodes, w.FitsAlone

namespace FollowedBy

variable {v : Value} {p : Payload}

theorem fitsAlone (h : v.FollowedBy p) (hfits : v.FitsAlone) : p.FitsAlone := by
  cases h with
  | field h =>
      cases p <;> first | trivial | (cases h; exact hfits)
  | list h =>
      change _ < _
      exact h.length_eq ▸ hfits
  | @map entries payloads hkeys h =>
      obtain ⟨hlength, hsizes⟩ := hfits
      have hequal := congrArg List.length hkeys
      rw [List.length_map, List.length_map] at hequal
      refine ⟨hequal ▸ hlength, fun entry hentry => ?_⟩
      have hkey : entry.1 ∈ entries.map Prod.fst := hkeys ▸ List.mem_map_of_mem hentry
      obtain ⟨source, hsource, heq⟩ := List.mem_map.mp hkey
      exact heq ▸ hsizes source hsource
  | object h => exact ⟨hfits.1, hfits.2 _ h⟩

theorem fits (h : v.FollowedBy p) (hfits : v.Fits) : p.Fits :=
  forall_of_forall₂ h.nodes (fun _ _ h => h.fitsAlone) hfits

end FollowedBy

/-! ### Scalars -/

/-- What is decoded out of a node: the scalar that was an object of the value, and nothing if the
value was no object. -/
def Yields (v : Value) (p : Payload) : Prop :=
  (∀ (t : ScalarType) (x : t.Carrier), t.IsFixed → v.object? = some (t.toObject x) →
      t.decode p = some (.ok x)) ∧
    (v.object? = none → ∀ t : ScalarType, t.decode p = none)

theorem FollowedBy.yields {v : Value} {p : Payload} (h : v.FollowedBy p) (hfits : v.FitsAlone) :
    v.Yields p := by
  cases h with
  | @field f p h =>
      have hvalue : f.toValue.object? = none := by cases f <;> rfl
      refine ⟨fun t x _ hobject => ?_, fun _ t => ?_⟩
      · rw [hvalue] at hobject
        cases hobject
      · cases p <;> first | rfl | cases h
  | list h => exact ⟨fun _ _ _ hobject => (nomatch hobject), fun _ _ => rfl⟩
  | map hkeys h => exact ⟨fun _ _ _ hobject => (nomatch hobject), fun _ _ => rfl⟩
  | object h =>
      refine ⟨fun t x ht hobject => ?_, fun hnone => nomatch hnone⟩
      obtain rfl := Option.some.inj hobject
      obtain rfl := Except.ok.inj (Option.some.inj h)
      exact ScalarType.decode_toObject ht (hfits.2 _ rfl)

end Value

/-! ### Object messages -/

namespace Encoder

open Payload

variable {context : Context} {key : String} {v : Value}

theorem object_of_bound (hbound : context.get? key = some v) :
    object key context =
      match Payload.ofValue v with
      | .error fault => .error (fault.under key)
      | .ok p => .ok (.object p.encode) := by
  cases hvalue : Payload.ofValue v <;> simp only [object, ofValue, hbound, hvalue]

theorem object_of_serialized (hbound : context.get? key = some v)
    (hobjects : ∀ o ∈ v.objects, o.IsSerialized) :
    ∃ p, object key context = .ok (.object p.encode) ∧ v.FollowedBy p := by
  have hreports := reports_ofValue v
  have hnone : v.objects.findSome? AppObject.fault? = none :=
    List.findSome?_eq_none_iff.mpr fun o ho => o.fault?_eq_none_iff.mpr (hobjects o ho)
  rw [Reports, hnone] at hreports
  obtain ⟨p, hvalue, hp⟩ := hreports
  exact ⟨p, by rw [object_of_bound hbound, hvalue], hp⟩

theorem object_of_fault {before after : List AppObject} {o : AppObject} {fault : ObjectFault}
    (hbound : context.get? key = some v) (hobjects : v.objects = before ++ o :: after)
    (hbefore : ∀ o' ∈ before, o'.IsSerialized) (hfault : o.fault? = some fault) :
    object key context = .error (fault.under key) := by
  have hreports := reports_ofValue v
  have hsome : v.objects.findSome? AppObject.fault? = some fault :=
    List.findSome?_eq_some_iff.mpr ⟨before, o, after, hobjects, hfault,
      fun o' ho' => o'.fault?_eq_none_iff.mpr (hbefore o' ho')⟩
  rw [Reports, hsome] at hreports
  dsimp only at hreports
  rw [object_of_bound hbound, hreports]

/-- If not all objects can be serialized, there is a first one that cannot. -/
theorem exists_first_fault {objects : List AppObject} (h : ¬ ∀ o ∈ objects, o.IsSerialized) :
    ∃ before o after fault, objects = before ++ o :: after ∧
      (∀ o' ∈ before, o'.IsSerialized) ∧ o.fault? = some fault := by
  cases hfirst : objects.findSome? AppObject.fault? with
  | none =>
      rw [List.findSome?_eq_none_iff] at hfirst
      exact absurd (fun o ho => o.fault?_eq_none_iff.mp (hfirst o ho)) h
  | some fault =>
      obtain ⟨before, o, after, hobjects, hfault, hbefore⟩ := List.findSome?_eq_some_iff.mp hfirst
      exact ⟨before, o, after, fault, hobjects,
        fun o' ho' => o'.fault?_eq_none_iff.mp (hbefore o' ho'), hfault⟩

theorem object_eq_ok_iff (hbound : context.get? key = some v) :
    (∃ body, object key context = .ok body) ↔ ∀ o ∈ v.objects, o.IsSerialized := by
  constructor
  · rintro ⟨body, hbody⟩
    by_contra hobjects
    obtain ⟨before, o, after, fault, hsplit, hbefore, hfault⟩ := exists_first_fault hobjects
    rw [object_of_fault hbound hsplit hbefore hfault] at hbody
    cases hbody
  · intro hobjects
    obtain ⟨p, hmessage, -⟩ := object_of_serialized hbound hobjects
    exact ⟨_, hmessage⟩

theorem object_eq_error_iff (hbound : context.get? key = some v) (e : EncodingError) :
    object key context = .error e ↔
      ∃ before o after, v.objects = before ++ o :: after ∧ (∀ o' ∈ before, o'.IsSerialized) ∧
        ∃ fault, o.fault? = some fault ∧ e = fault.under key := by
  constructor
  · intro he
    by_cases hobjects : ∀ o ∈ v.objects, o.IsSerialized
    · obtain ⟨p, hmessage, -⟩ := object_of_serialized hbound hobjects
      rw [hmessage] at he
      cases he
    · obtain ⟨before, o, after, fault, hsplit, hbefore, hfault⟩ := exists_first_fault hobjects
      rw [object_of_fault hbound hsplit hbefore hfault] at he
      exact ⟨before, o, after, hsplit, hbefore, fault, hfault, (Except.error.inj he).symm⟩
  · rintro ⟨before, o, after, hsplit, hbefore, fault, hfault, rfl⟩
    exact object_of_fault hbound hsplit hbefore hfault

theorem object_read_back (hbound : context.get? key = some v) (hordered : v.Ordered)
    (hfits : v.Fits) {body : Body} (hbody : object key context = .ok body) :
    ∃ bytes p, body = .object bytes ∧ Payload.ofBytes bytes = .ok p ∧ v.FollowedBy p ∧
      List.Forall₂ (fun w q => w.FollowedBy q ∧ w.Yields q) v.nodes p.nodes := by
  have hobjects := (object_eq_ok_iff hbound).mp ⟨body, hbody⟩
  obtain ⟨p, hmessage, hp⟩ := object_of_serialized hbound hobjects
  obtain rfl := Except.ok.inj (hmessage.symm.trans hbody)
  have hread := (Payload.reads (hp.ordered hordered) (hp.fits hfits)).decode
  have hnodes := (List.forall₂_and_left _ _).mpr ⟨hfits, hp.nodes⟩
  exact ⟨p.encode, p, rfl, hread, hp, hnodes.imp fun w q h => ⟨h.2, h.2.yields h.1⟩⟩

/-- A bound value becomes an object message if and only if all application objects in it can be
serialized. The message is read as the payload that follows the value node for node, and each node
yields the scalar that its object is. Otherwise the first object that cannot be serialized tells the
error. -/
theorem object_faithful (hbound : context.get? key = some v) (hordered : v.Ordered)
    (hfits : v.Fits) :
    ((∃ body, object key context = .ok body) ↔ ∀ o ∈ v.objects, o.IsSerialized) ∧
      (∀ body, object key context = .ok body →
        ∃ bytes p, body = .object bytes ∧ Payload.ofBytes bytes = .ok p ∧ v.FollowedBy p ∧
          List.Forall₂ (fun w q => w.FollowedBy q ∧ w.Yields q) v.nodes p.nodes) ∧
      ∀ e, object key context = .error e ↔
        ∃ before o after, v.objects = before ++ o :: after ∧ (∀ o' ∈ before, o'.IsSerialized) ∧
          ((o.serialized = none ∧ e = .notSerializable key o.typeName) ∨
            ∃ reason, o.serialized = some (.error reason) ∧ e = .serialization key reason) := by
  refine ⟨object_eq_ok_iff hbound, fun body hbody => object_read_back hbound hordered hfits hbody,
    fun e => (object_eq_error_iff hbound e).trans ?_⟩
  simp only [AppObject.exists_fault_iff]

theorem object_faithful_nested :
    let count : AppObject := ScalarType.toObject (.unsigned 16) 300#128
    let v : Value := .list [.map [("count", .object count), ("é", .boolean true)], .short (-1)]
    let context : Context := Keyed.empty.insert "order" v
    context.get? "order" = some v ∧ v.Ordered ∧ v.Fits ∧ v.objects = [count] ∧
      ∃ bytes p, object "order" context = .ok (.object bytes) ∧ Payload.ofBytes bytes = .ok p ∧
        v.FollowedBy p ∧
        List.Forall₂ (fun w q => w.FollowedBy q ∧ w.Yields q) v.nodes p.nodes := by
  intro count v context
  have hbound : context.get? "order" = some v := by simp [context]
  have hordered : v.Ordered := by
    refine ⟨⟨?_, trivial, trivial, trivial⟩, trivial, trivial⟩
    decide
  have hcount : ∀ data, count.serialized = some (.ok data) → data.length < Nat.pow 2 64 := by
    intro data hdata
    obtain rfl := Except.ok.inj (Option.some.inj hdata)
    decide
  have hsmall : 2 < Nat.pow 2 64 := by decide
  have hkeys : ∀ entry ∈ [("count", Value.object count), ("é", .boolean true)],
      entry.1.utf8ByteSize < Nat.pow 2 64 := by
    simp only [List.forall_mem_cons]
    exact ⟨by decide, by decide, List.forall_mem_nil _⟩
  have hfits : v.Fits := by
    change ∀ w ∈ [v, .map _, .object count, .boolean true, .short (-1)], w.FitsAlone
    simp only [List.forall_mem_cons]
    exact ⟨hsmall, ⟨hsmall, hkeys⟩, ⟨by decide, hcount⟩, trivial, trivial, List.forall_mem_nil _⟩
  obtain ⟨hok, hread, -⟩ := object_faithful hbound hordered hfits
  obtain ⟨body, hbody⟩ := hok.mpr (by
    intro o ho
    obtain rfl := List.mem_singleton.mp ho
    exact ⟨_, rfl⟩)
  obtain ⟨bytes, p, rfl, hp⟩ := hread body hbody
  exact ⟨hbound, hordered, hfits, rfl, bytes, p, hbody, hp⟩

end Encoder

end Sluice
