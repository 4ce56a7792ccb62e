import Mathlib.Data.List.Nodup
import Sluice.Proofs.Broker.Failures
import Sluice.Proofs.Broker.History

/-! # How many handles are open

A broker counts its open handles beside the records that say which handles are open. Over any
history the counts are those of the handles that were given out and not closed since: each handle is
given out once, the first closing takes it out of the count, and no other operation does.
-/

namespace Sluice

/-- The handles of one kind. -/
def ofKind (kind : HandleKind) (handles : List AnyHandle) : List AnyHandle :=
  handles.filter fun h => h.kind = kind

@[simp] theorem ofKind_nil (kind : HandleKind) : ofKind kind [] = [] := rfl

@[simp] theorem ofKind_append (kind : HandleKind) (first second : List AnyHandle) :
    ofKind kind (first ++ second) = ofKind kind first ++ ofKind kind second :=
  List.filter_append ..

@[simp] theorem mem_ofKind {kind : HandleKind} {handles : List AnyHandle} {h : AnyHandle} :
    h ∈ ofKind kind handles ↔ h ∈ handles ∧ h.kind = kind := by
  simp [ofKind]

/-- Among handles that are all different, at most one is a given one. -/
theorem length_ofKind_filter_ne {handles : List AnyHandle} (hnodup : handles.Nodup)
    (h : AnyHandle) (kind : HandleKind) :
    (ofKind kind (handles.filter (· ≠ h))).length +
        (if h ∈ handles ∧ h.kind = kind then 1 else 0) =
      (ofKind kind handles).length := by
  have herase : ofKind kind (handles.filter (· ≠ h)) = (ofKind kind handles).erase h := by
    have hkind : (ofKind kind handles).Nodup := hnodup.filter _
    rw [hkind.erase_eq_filter, ofKind, ofKind, List.filter_comm]
    exact List.filter_congr fun k _ => by simp [bne, beq_eq_decide]
  rw [herase, List.length_erase]
  simp only [mem_ofKind]
  split
  next hmem =>
    have hpos := List.length_pos_of_mem (mem_ofKind.mpr hmem)
    omega
  next => rfl

/-- Whether a call is answered with an error, or with no browser. -/
def Call.isFruitless : (c : Call) → c.Reply → Bool
  | .createBrowser _ _, .ok none => true
  | _, .error _ => true
  | _, _ => false

theorem Call.opened_of_isFruitless {c : Call} {reply : c.Reply} (h : c.isFruitless reply = true) :
    c.opened reply = [] := by
  cases reply with
  | error e => exact Broker.opened_error c e
  | ok result =>
      cases c with
      | createBrowser s d =>
          cases result with
          | none => rfl
          | some w => cases h
      | _ => cases h

namespace Operation

/-- The handles that an operation gives out, by its answer. -/
def opened : (o : Operation) → o.Answer → List AnyHandle
  | .call c, reply => c.opened reply
  | _, _ => []

/-- Whether an operation is answered with an error, or with no browser. -/
def isFruitless : (o : Operation) → o.Answer → Bool
  | .call c, reply => c.isFruitless reply
  | _, _ => false

theorem opened_of_isFruitless {o : Operation} {answer : o.Answer}
    (h : o.isFruitless answer = true) : o.opened answer = [] := by
  cases o with
  | call c => exact Call.opened_of_isFruitless h
  | _ => cases h

/-- Handles are given out by calls alone. -/
theorem opened_of_not_call (o : Operation) (hcall : ¬ ∃ c, o = .call c) (answer : o.Answer) :
    o.opened answer = [] := by
  cases o with
  | call c => exact absurd ⟨c, rfl⟩ hcall
  | _ => rfl

/-- A closing gives out nothing. -/
theorem opened_of_closes {o : Operation} {answer : o.Answer} {h : AnyHandle}
    (hc : o.closes = some h) : o.opened answer = [] := by
  cases o with
  | call c => cases c <;> first | rfl | cases hc
  | _ => cases hc

end Operation

namespace Operated

/-- The handles that an operation gave out. -/
def opened (e : Operated) : List AnyHandle :=
  e.operation.opened (e.broker.operate e.now e.operation).1

/-- The handle that an operation closed, or closed once more. -/
def closes (e : Operated) : Option AnyHandle := e.operation.closes

end Operated

/-- The handles that were given out in a history and not closed behind that. -/
def leftOpen : List Operated → List AnyHandle
  | [] => []
  | e :: behind => e.opened.filter (fun h => ∀ x ∈ behind, x.closes ≠ some h) ++ leftOpen behind

theorem leftOpen_concat (history : List Operated) (e : Operated) :
    leftOpen (history ++ [e]) =
      (leftOpen history).filter (fun h => e.closes ≠ some h) ++ e.opened := by
  induction history with
  | nil => simp [leftOpen]
  | cons x behind ih =>
      rw [List.cons_append, leftOpen, leftOpen, ih, List.filter_append, List.filter_filter,
        List.append_assoc]
      congr 2
      funext h
      have hbehind : (∀ y ∈ behind ++ [e], y.closes ≠ some h) ↔
          e.closes ≠ some h ∧ ∀ y ∈ behind, y.closes ≠ some h := by
        rw [List.forall_mem_append, List.forall_mem_singleton, And.comm]
      simp only [hbehind, Bool.decide_and]

theorem leftOpen_sublist (history : List Operated) :
    (leftOpen history).Sublist (history.flatMap Operated.opened) := by
  induction history with
  | nil => exact List.Sublist.refl _
  | cons e behind ih => exact List.filter_sublist.append ih

namespace Broker

variable {b b' : Broker} {now : Nat} {h : AnyHandle} {o : Operation}

/-! ### One operation -/

/-- Only a closing takes anything off a count. -/
theorem Effect.count_le {c : Call} {reply : c.Reply} (heffect : b.Effect now c reply b')
    (hc : c.closes = none) (kind : HandleKind) :
    b.openHandles.count kind ≤ b'.openHandles.count kind := by
  have hopened : ∀ opened, b.openHandles.count kind ≤
      (b.openHandles.update (· + 1) opened).count kind := by
    intro opened
    rw [count_update]
    split <;> omega
  cases heffect with
  | connected | sessionOpened | producerOpened | browserOpened => exact hopened _
  | committed =>
      rw [(sameHandles_deliverAll _ _).openHandles]
      exact Nat.le_refl _
  | disconnected | sessionClosed | producerClosed | browserGone | browserClosed =>
      simp [Call.closes] at hc
  | _ => exact Nat.le_refl _

/-- Without a closing, what was open stays open, and what is given out comes to it. -/
theorem Booked.open_handles {c : Call} {reply : c.Reply} (hbooked : b.Booked c reply b')
    (hcounted : b.Counted)
    (hle : ∀ kind, b.openHandles.count kind ≤ b'.openHandles.count kind) :
    (∀ k, b'.isOpen k = true ↔ b.isOpen k = true ∨ k ∈ c.opened reply) ∧
      ∀ kind, b'.openHandles.count kind =
        b.openHandles.count kind + (ofKind kind (c.opened reply)).length := by
  cases hbooked with
  | same hopened hrecords hcount =>
      simp [hopened, hcount, isOpen, Broker.record?, hrecords]
  | added kind r hopened hopen hsession hrecords hcount =>
      rw [hopened]
      constructor
      · intro k
        rw [isOpen, record?_append hrecords, List.mem_singleton]
        split
        next heq => simp [heq, hopen]
        next hne => simp [hne, isOpen]
      · intro other
        rw [hcount, count_update]
        by_cases hkind : other = kind
        · simp [ofKind, hkind]
        · simp [ofKind, hkind, Ne.symm hkind]
  | changed other r r' hopened hother hr hopen hsession hrecords hcount =>
      rw [hopened]
      refine ⟨fun k => ?_, fun kind => by simp [hcount]⟩
      rw [isOpen, record?_set hrecords, isOpen]
      split
      next heq => simp [heq, hr, hopen]
      next => simp
  | closed other r r' hopened hother hr hopen hclosed hsession hrecords hcount =>
      have hpos := hcounted.pos_of_open hr hopen
      have hfewer := hle other.kind
      rw [hcount, count_update, if_pos rfl] at hfewer
      omega

theorem shuts_operate (b : Broker) (now : Nat) (hc : o.closes = some h) :
    b.ShutsRecord (b.operate now o).2 h := by
  cases o with
  | call c => exact (b.perform_effect now c).shuts hc
  | _ => cases hc

theorem open_handles_operate (hcounted : b.Counted) (now : Nat) (hc : o.closes = none) :
    (∀ k, (b.operate now o).2.isOpen k = true ↔
        b.isOpen k = true ∨ k ∈ o.opened (b.operate now o).1) ∧
      ∀ kind, (b.operate now o).2.openHandles.count kind =
        b.openHandles.count kind + (ofKind kind (o.opened (b.operate now o).1)).length := by
  by_cases hcall : ∃ c, o = .call c
  · obtain ⟨c, rfl⟩ := hcall
    have heffect := b.perform_effect now c
    exact heffect.booked.open_handles hcounted (heffect.count_le hc)
  · have hsame := b.sameHandles_operate now o fun c hc => hcall ⟨c, hc⟩
    simp [o.opened_of_not_call hcall, hsame.openHandles, isOpen, hsame.record?]

/-- A handle is open behind an operation if the operation gave it out, or if it was open and the
operation did not close it. -/
theorem isOpen_operate (hcounted : b.Counted) (now : Nat) (o : Operation) (k : AnyHandle) :
    (b.operate now o).2.isOpen k = true ↔
      (b.isOpen k = true ∧ o.closes ≠ some k) ∨ k ∈ o.opened (b.operate now o).1 := by
  cases hc : o.closes with
  | none => simpa using (open_handles_operate hcounted now hc).1 k
  | some h =>
      rw [Operation.opened_of_closes hc, isOpen, (b.shuts_operate now hc).record? k, isOpen]
      split
      next heq => cases b.record? k <;> simp [heq, Record.isOpen_shut]
      next hne => simp [Ne.symm hne]

/-- What is given out is recorded: one handle at most, and the next one of its kind. -/
theorem Booked.opened_cases {c : Call} {reply : c.Reply} (hbooked : b.Booked c reply b') :
    c.opened reply = [] ∨ ∃ kind, c.opened reply = [⟨kind, (b.records kind).length⟩] := by
  cases hbooked with
  | added kind r hopened => exact .inr ⟨kind, hopened⟩
  | same hopened | changed _ _ _ hopened | closed _ _ _ hopened => exact .inl hopened

theorem opened_operate_cases (b : Broker) (now : Nat) (o : Operation) :
    o.opened (b.operate now o).1 = [] ∨
      ∃ kind, o.opened (b.operate now o).1 = [⟨kind, (b.records kind).length⟩] := by
  cases o with
  | call c => exact (b.booked_perform now c).opened_cases
  | _ => exact .inl rfl

/-- How many handles of each kind were given out. -/
theorem length_records_operate (b : Broker) (now : Nat) (o : Operation) (kind : HandleKind) :
    ((b.operate now o).2.records kind).length =
      (b.records kind).length + (ofKind kind (o.opened (b.operate now o).1)).length := by
  by_cases hcall : ∃ c, o = .call c
  · obtain ⟨c, rfl⟩ := hcall
    exact (b.booked_perform now c).length_records kind
  · have hsame := b.sameHandles_operate now o fun c hc => hcall ⟨c, hc⟩
    simp [o.opened_of_not_call hcall, hsame.records]

/-! ### Runs -/

/-- The handles that were given out are all different, and the broker has a record of each. -/
structure Issued (b : Broker) (handles : List AnyHandle) : Prop where
  nodup : handles.Nodup
  index_lt : ∀ h ∈ handles, h.index < (b.records h.kind).length

theorem Issued.operate {handles : List AnyHandle} (hissued : b.Issued handles) (now : Nat)
    (o : Operation) :
    (b.operate now o).2.Issued (handles ++ o.opened (b.operate now o).1) := by
  have hlength := b.length_records_operate now o
  rcases b.opened_operate_cases now o with hopened | ⟨kind, hopened⟩
  · rw [hopened] at hlength ⊢
    rw [List.append_nil]
    refine ⟨hissued.nodup, fun h hmem => ?_⟩
    rw [hlength]
    exact hissued.index_lt h hmem
  · have hnew : (⟨kind, (b.records kind).length⟩ : AnyHandle) ∉ handles := fun hmem =>
      Nat.lt_irrefl _ (hissued.index_lt _ hmem)
    rw [hopened] at hlength ⊢
    refine ⟨hissued.nodup.append (List.nodup_singleton _) (by simpa using hnew), fun h hmem => ?_⟩
    rw [hlength]
    rcases List.mem_append.mp hmem with hmem | hmem
    · have := hissued.index_lt h hmem
      omega
    · obtain rfl := List.mem_singleton.mp hmem
      simp [ofKind]

/-- The handles that are left open in a history are those that the broker takes for open, and its
counts are right. -/
structure Tallied (b : Broker) (history : List Operated) : Prop where
  counted : b.Counted
  issued : b.Issued (history.flatMap Operated.opened)
  mem_leftOpen : ∀ h, h ∈ leftOpen history ↔ b.isOpen h = true
  counts : ∀ kind, b.openHandles.count kind = (ofKind kind (leftOpen history)).length

theorem Tallied.nodup {history : List Operated} (htallied : b.Tallied history) :
    (leftOpen history).Nodup :=
  htallied.issued.nodup.sublist (leftOpen_sublist history)

/-- A closing takes its handle off the count of its kind if the handle is left open, and takes
nothing off otherwise. -/
theorem Tallied.count_of_closes {history : List Operated} (htallied : b.Tallied history)
    (now : Nat) (hc : o.closes = some h) (kind : HandleKind) :
    (b.operate now o).2.openHandles.count kind +
        (if h ∈ leftOpen history ∧ h.kind = kind then 1 else 0) =
      b.openHandles.count kind := by
  have hcount := (b.shuts_operate now hc).count htallied.counted
    (htallied.counted.operate now o) kind
  rw [← hcount]
  simp only [htallied.mem_leftOpen]
  cases b.isOpen h <;> simp [eq_comm]

/-- Behind one more operation the books are still right. -/
theorem Tallied.operate {history : List Operated} (htallied : b.Tallied history) (now : Nat)
    (o : Operation) : (b.operate now o).2.Tallied (history ++ [⟨b, now, o⟩]) where
  counted := htallied.counted.operate now o
  issued := by
    rw [List.flatMap_append, List.flatMap_singleton]
    exact htallied.issued.operate now o
  mem_leftOpen h := by
    rw [leftOpen_concat, isOpen_operate htallied.counted, List.mem_append, List.mem_filter,
      htallied.mem_leftOpen, decide_eq_true_eq]
    rfl
  counts kind := by
    rw [leftOpen_concat, ofKind_append, List.length_append]
    cases hc : o.closes with
    | none =>
        have hcount := (open_handles_operate htallied.counted now hc).2 kind
        simpa [Operated.closes, Operated.opened, hc, htallied.counts kind] using hcount
    | some h =>
        have hcount := htallied.count_of_closes now hc kind
        have hfilter := length_ofKind_filter_ne htallied.nodup h kind
        have hopened : Operated.opened ⟨b, now, o⟩ = [] := Operation.opened_of_closes hc
        rw [hopened, ofKind_nil, List.length_nil]
        simp only [Operated.closes, hc, Option.some.injEq, ne_eq, eq_comm (a := h)]
        have := htallied.counts kind
        simp only [ne_eq] at hfilter
        omega

theorem tallied_history (run : List (Nat × Operation)) :
    (Broker.after {} run).Tallied (({} : Broker).history run) := by
  induction run using List.reverseRecOn with
  | nil =>
      refine ⟨keeps_new.counted, ⟨List.nodup_nil, by simp⟩, fun h => ?_, fun kind => ?_⟩
      · cases h with
        | mk kind index => cases kind <;> simp [leftOpen, isOpen, Broker.record?, records]
      · cases kind <;> rfl
  | append_singleton run step ih =>
      rw [history_append, after_append]
      exact ih.operate step.1 step.2

/-- Over every run the count of each kind is the number of the handles of that kind that were given
out and not closed since, all of them different. So a closing takes one off the count of an open
handle's kind, which is there to be taken off, and changes no count if the handle is closed already,
whether or not a fault is reported. Every other operation adds the handles that it gives out, and an
operation that fails or returns no browser gives out none. -/
theorem open_handles_exact (run : List (Nat × Operation)) :
    let history := ({} : Broker).history run
    let b := Broker.after {} run
    (history.flatMap Operated.opened).Nodup ∧
      (∀ kind, b.openHandles.count kind = (ofKind kind (leftOpen history)).length) ∧
      ∀ now o,
        let answer := (b.operate now o).1
        let b' := (b.operate now o).2
        (∀ h, o.closes = some h → o.opened answer = [] ∧
            ∀ kind, b'.openHandles.count kind +
              (if h ∈ leftOpen history ∧ h.kind = kind then 1 else 0) =
                b.openHandles.count kind) ∧
          (o.closes = none → ∀ kind, b'.openHandles.count kind =
            b.openHandles.count kind + (ofKind kind (o.opened answer)).length) ∧
          (∀ kind, (b'.records kind).length =
            (b.records kind).length + (ofKind kind (o.opened answer)).length) ∧
          (o.isFruitless answer = true → o.opened answer = []) := by
  intro history b
  have htallied : b.Tallied history := tallied_history run
  refine ⟨htallied.issued.nodup, htallied.counts, fun now o => ⟨fun h hc => ?_, fun hc => ?_,
    b.length_records_operate now o, Operation.opened_of_isFruitless⟩⟩
  · exact ⟨Operation.opened_of_closes hc, htallied.count_of_closes now hc⟩
  · exact (open_handles_operate htallied.counted now hc).2

/-- The connection is closed before its session, the closing of the session is reported as failed
and repeated, and the producer is left open. -/
theorem open_handles_exact_disordered :
    let run : List (Nat × Operation) := [
      (0, .call (.createConnection none)), (0, .call (.createSession ⟨0⟩ false .auto)),
      (0, .call (.createProducer ⟨0⟩ (.queue "orders"))), (1, .call (.closeConnection ⟨0⟩)),
      (2, .failNext .closeSession), (2, .call (.closeSession ⟨0⟩)),
      (3, .call (.closeSession ⟨0⟩))]
    let b := Broker.after {} run
    leftOpen (({} : Broker).history run) = [⟨.producer, 0⟩] ∧
      b.openHandles.count .session = 0 ∧ b.openHandles.count .producer = 1 ∧
      (b.perform 4 (.closeSession ⟨0⟩)).2.openHandles.count .session = 0 ∧
      (b.perform 4 (.closeProducer ⟨0⟩)).2.openHandles.count .producer = 0 := by
  intro run b
  have hleft : leftOpen (({} : Broker).history run) = [⟨.producer, 0⟩] := rfl
  obtain ⟨-, hcounts, hnext⟩ := open_handles_exact run
  obtain ⟨-, hsession⟩ := (hnext 4 (.call (.closeSession ⟨0⟩))).1 _ rfl
  obtain ⟨-, hproducer⟩ := (hnext 4 (.call (.closeProducer ⟨0⟩))).1 _ rfl
  exact ⟨hleft, hcounts .session, hcounts .producer, hsession .session,
    Nat.add_right_cancel (hproducer .producer)⟩

end Broker

end Sluice
