import Sluice.Proofs.Broker.History

/-! # An account of every message at a destination

At one name an operation does one of three things: messages arrive behind those that wait there, or
somebody looks at the name, and then what is expired is dropped before anything is returned, or the
name is cleared. So every message that ever arrived has been returned, or waits, or was discarded
by a clearing, or was expired when somebody looked, and what is returned keeps the order of
arrival.
-/

namespace Sluice

/-- Whether an operation discards what waits under a name. -/
def Operation.clears (name : String) : Operation → Bool
  | .clear other => other = name
  | _ => false

namespace Operated

variable (e : Operated) (name : String)

/-- The messages that an operation delivers to a name. -/
def arrived : List Parcel := e.delivered.filter fun p => p.destination = name

/-- The messages that an operation returns to whoever receives from a name or drains it. -/
def returned : List Parcel :=
  match e.operation with
  | .receive other => if other = name then (e.broker.receive e.now other).1.toList else []
  | .drain other => if other = name then (e.broker.drain e.now other).1 else []
  | _ => []

/-- The messages that wait under a name before an operation, but not after it, and that it does
not return. -/
def vanished : List Parcel :=
  (e.broker.waiting name).filter fun p =>
    p ∉ e.returned name ∧ p ∉ e.after.waiting name

/-- The messages that vanish because their name is cleared. -/
def discarded : List Parcel := if e.operation.clears name then e.vanished name else []

/-- The messages that vanish although nobody clears their name. -/
def purged : List Parcel := if e.operation.clears name then [] else e.vanished name

/-- What an operation can come to for a name. -/
inductive Turn (e : Operated) (name : String) : Prop
  | extended (hclears : e.operation.clears name = false) (hreturned : e.returned name = [])
      (hafter : e.after.waiting name = e.broker.waiting name ++ e.arrived name)
  | looked (hclears : e.operation.clears name = false) (harrived : e.arrived name = [])
      (hsplit : e.returned name ++ e.after.waiting name =
        (e.broker.waiting name).filter fun p => !p.isExpired e.now)
  | cleared (hclears : e.operation.clears name = true) (hreturned : e.returned name = [])
      (harrived : e.arrived name = []) (hafter : e.after.waiting name = [])

variable {e : Operated} {name : String}

/-- Nothing happens at a name. -/
theorem Turn.still (hclears : e.operation.clears name = false) (harrived : e.arrived name = [])
    (hreturned : e.returned name = []) (hafter : e.after.waiting name = e.broker.waiting name) :
    e.Turn name := by
  refine .extended hclears hreturned ?_
  rw [hafter, harrived, List.append_nil]

/-- Somebody looks at one name, and what he then takes from it he takes from the front. -/
theorem Turn.look (other : String) (taken rest : List Parcel)
    (hclears : e.operation.clears name = false) (harrived : e.arrived name = [])
    (hreturned : e.returned name = if other = name then taken else [])
    (hsplit : taken ++ rest = (e.broker.purge e.now other).waiting other)
    (hafter : e.after.waiting name =
      if other = name then rest else (e.broker.purge e.now other).waiting name) :
    e.Turn name := by
  by_cases heq : other = name
  · subst heq
    refine .looked hclears harrived ?_
    rw [hreturned, hafter, if_pos rfl, if_pos rfl, hsplit, Broker.waiting_purge, if_pos rfl]
  · refine .still hclears harrived ?_ ?_
    · rw [hreturned, if_neg heq]
    · rw [hafter, if_neg heq, Broker.waiting_purge, if_neg heq]

/-- Somebody looks at one name and takes nothing. -/
theorem Turn.purge (other : String) (hclears : e.operation.clears name = false)
    (harrived : e.arrived name = []) (hreturned : e.returned name = [])
    (hafter : e.after.waiting name = (e.broker.purge e.now other).waiting name) :
    e.Turn name := by
  refine .look other [] ((e.broker.purge e.now other).waiting other) hclears harrived ?_ rfl ?_
  · rw [hreturned, ite_self]
  · rw [hafter]
    split
    next heq => rw [heq]
    next => rfl

/-- Whatever an operation is, it comes to one of the three at each name. -/
theorem turn (e : Operated) (name : String) : e.Turn name := by
  obtain ⟨b, now, o⟩ := e
  cases o with
  | declare d => exact .still rfl rfl rfl (Broker.waiting_declare b d name)
  | inject d m => exact .extended rfl rfl (Broker.waiting_deliver _ _ _)
  | depth other => exact .purge other rfl rfl rfl rfl
  | receive other =>
      cases hwaiting : (b.purge now other).waiting other with
      | nil =>
          have hreceive : b.receive now other = (none, b.purge now other) := by
            simp only [Broker.receive, hwaiting]
          refine .purge other rfl rfl ?_ ?_
          · simp [returned, hreceive]
          · simp [after, Broker.operate, hreceive]
      | cons p rest =>
          have hreceive : b.receive now other =
              (some p, (b.purge now other).replaceWaiting other rest) := by
            simp only [Broker.receive, hwaiting]
          have hrest : rest.Sublist ((b.purge now other).waiting other) := by
            rw [hwaiting]
            exact List.sublist_cons_self p rest
          refine .look other [p] rest rfl rfl ?_ hwaiting.symm ?_
          · simp only [returned, hreceive, Option.toList_some]
          · simp only [after, Broker.operate, hreceive]
            exact Broker.waiting_replaceWaiting _ _ _ hrest
  | drain other =>
      refine .look other ((b.purge now other).waiting other) [] rfl rfl rfl
        (List.append_nil _) ?_
      exact Broker.waiting_replaceWaiting _ _ _ (List.nil_sublist _)
  | clear other =>
      have hafter := b.waiting_replaceWaiting other name (List.nil_sublist (b.waiting other))
      by_cases heq : other = name
      · refine .cleared ?_ rfl rfl ?_
        · simp [Operation.clears, heq]
        · exact hafter.trans (if_pos heq)
      · refine .still ?_ rfl rfl ?_
        · simp [Operation.clears, heq]
        · exact hafter.trans (if_neg heq)
  | requireCredentials c => exact .still rfl rfl rfl rfl
  | failNext point =>
      refine .still rfl rfl rfl (Broker.waiting_congr ?_ name)
      simp only [after, Broker.operate, Broker.failNext]
      split <;> rfl
  | call c =>
      rcases b.mailboxes_perform now c with h | ⟨w, r, rfl, -, h⟩
      · refine .extended rfl rfl ?_
        exact (Broker.waiting_congr h name).trans (b.waiting_deliverAll _ name)
      · exact .purge r.destination rfl rfl rfl (Broker.waiting_congr h name)

/-- What is returned stands before what goes on waiting, and nothing changes its place. -/
theorem Turn.inOrder (h : e.Turn name) :
    (e.returned name ++ e.after.waiting name).Sublist
      (e.broker.waiting name ++ e.arrived name) := by
  cases h with
  | extended hclears hreturned hafter => rw [hreturned, hafter, List.nil_append]
  | looked hclears harrived hsplit =>
      rw [hsplit, harrived, List.append_nil]
      exact List.filter_sublist
  | cleared hclears hreturned harrived hafter =>
      rw [hreturned, hafter]
      exact List.nil_sublist _

/-- Nothing vanishes when messages arrive behind the others. -/
theorem vanished_of_extended
    (hafter : e.after.waiting name = e.broker.waiting name ++ e.arrived name) :
    e.vanished name = [] := by
  rw [vanished, List.filter_eq_nil_iff]
  intro p hp
  simp [hafter, hp]

/-- What vanishes when somebody looks is what is expired. -/
theorem vanished_of_looked (hsplit : e.returned name ++ e.after.waiting name =
      (e.broker.waiting name).filter fun p => !p.isExpired e.now) :
    e.vanished name = (e.broker.waiting name).filter fun p => p.isExpired e.now := by
  apply List.filter_congr
  intro p hp
  have hmem : p ∈ e.returned name ++ e.after.waiting name ↔ p.isExpired e.now = false := by
    rw [hsplit, List.mem_filter]
    simp [hp]
  rw [List.mem_append] at hmem
  cases hexpired : p.isExpired e.now with
  | false => simpa [hexpired, or_iff_not_imp_left] using hmem
  | true => simpa [hexpired] using hmem

/-- What waited or arrived is returned, discarded or purged, or goes on waiting. -/
theorem Turn.complete (h : e.Turn name) :
    (e.returned name ++ e.discarded name ++ e.purged name ++ e.after.waiting name).Perm
      (e.broker.waiting name ++ e.arrived name) := by
  cases h with
  | extended hclears hreturned hafter =>
      have hvanished := vanished_of_extended hafter
      simp [discarded, purged, hclears, hvanished, hreturned, hafter]
  | looked hclears harrived hsplit =>
      have hvanished := vanished_of_looked hsplit
      simp only [discarded, purged, hclears, hvanished, harrived, List.append_nil,
        Bool.false_eq_true, if_false]
      refine (List.perm_append_comm.append_right _).trans ?_
      rw [List.append_assoc, hsplit]
      exact List.filter_append_perm _ _
  | cleared hclears hreturned harrived hafter =>
      have hvanished : e.vanished name = e.broker.waiting name := by
        rw [vanished, List.filter_eq_self]
        intro p hp
        simp [hreturned, hafter]
      simp [discarded, purged, hclears, hvanished, hreturned, harrived, hafter]

/-- Whatever is returned is not expired. -/
theorem Turn.fresh (h : e.Turn name) {p : Parcel} (hp : p ∈ e.returned name) :
    p.isExpired e.now = false := by
  cases h with
  | extended hclears hreturned hafter => simp [hreturned] at hp
  | looked hclears harrived hsplit =>
      have hmem := List.mem_append_left (e.after.waiting name) hp
      rw [hsplit, List.mem_filter] at hmem
      simpa using hmem.2
  | cleared hclears hreturned harrived hafter => simp [hreturned] at hp

/-- Whatever is purged is expired. -/
theorem Turn.overdue (h : e.Turn name) {p : Parcel} (hp : p ∈ e.purged name) :
    p.isExpired e.now = true := by
  cases h with
  | extended hclears hreturned hafter =>
      simp [purged, hclears, vanished_of_extended hafter] at hp
  | looked hclears harrived hsplit =>
      rw [purged, hclears, vanished_of_looked hsplit] at hp
      simpa using (List.mem_filter.mp hp).2
  | cleared hclears hreturned harrived hafter => simp [purged, hclears] at hp

end Operated

namespace Broker

variable (b : Broker) (run : List (Nat × Operation)) (name : String)

/-- What was returned and what waits in the end stood or arrived in this order. -/
theorem returned_inOrder :
    ((b.history run).flatMap (·.returned name) ++ (b.after run).waiting name).Sublist
      (b.waiting name ++ (b.history run).flatMap (·.arrived name)) := by
  induction run generalizing b with
  | nil => simp
  | cons step rest ih =>
      let e : Operated := ⟨b, step.1, step.2⟩
      have hrest := (ih e.after).append_left (e.returned name)
      have hfirst := (e.turn name).inOrder.append_right
        ((e.after.history rest).flatMap (·.arrived name))
      rw [List.append_assoc] at hfirst
      simpa [e, Operated.after] using hrest.trans hfirst

/-- What stood or arrived was returned, discarded or purged, or waits in the end. -/
theorem accounted_for :
    ((b.history run).flatMap (·.returned name) ++ (b.history run).flatMap (·.discarded name) ++
        (b.history run).flatMap (·.purged name) ++ (b.after run).waiting name).Perm
      (b.waiting name ++ (b.history run).flatMap (·.arrived name)) := by
  have hbalanced := b.balanced run (·.waiting name)
    (fun e => e.returned name ++ e.discarded name ++ e.purged name) (·.arrived name)
    fun e => (e.turn name).complete
  refine List.Perm.trans (List.Perm.append_right _ ?_) hbalanced
  exact ((List.flatMap_append_perm _ _ _).append_right _).trans (List.flatMap_append_perm _ _ _)

theorem arrived_eq_filter (history : List Operated) :
    history.flatMap (·.arrived name) =
      (history.flatMap Operated.delivered).filter fun p => p.destination = name := by
  rw [List.filter_flatMap]
  rfl

end Broker

/-- The account of a name at the end of a history, when some messages are still stored there. -/
structure Accounted (history : List Operated) (name : String) (stored : List Parcel) : Prop where
  /-- What was returned and what is still stored, in this order, arrived in the same order. -/
  inOrder : (history.flatMap (·.returned name) ++ stored).Sublist
    (history.flatMap (·.arrived name))
  /-- Everything that arrived was returned, was discarded, was purged or is stored. -/
  complete : (history.flatMap (·.returned name) ++ history.flatMap (·.discarded name) ++
    history.flatMap (·.purged name) ++ stored).Perm (history.flatMap (·.arrived name))
  /-- It arrived once, so only one of these can have happened to it, and that only once. -/
  once : ((history.flatMap (·.arrived name)).map Parcel.serial).Nodup
  /-- It was taken in at some time, from which on its time-to-live is counted. -/
  taken : ∀ p ∈ history.flatMap (·.arrived name), ∃ o ∈ history, p ∈ o.taken
  /-- Nothing was returned at or after its expiry. -/
  fresh : ∀ o ∈ history, ∀ p ∈ o.taken, ∀ e ∈ history, p ∈ e.returned name →
    p.message.timeToLive ≠ 0 → e.now < o.now + p.message.timeToLive
  /-- Nothing was purged before its expiry, and without a time-to-live there is none. -/
  overdue : ∀ o ∈ history, ∀ p ∈ o.taken, ∀ e ∈ history, p ∈ e.purged name →
    p.message.timeToLive ≠ 0 ∧ o.now + p.message.timeToLive ≤ e.now

/-- Whatever is done with a broker, in any order and at any times, every message at every name is
accounted for. -/
theorem Broker.messages_accounted_for (run : List (Nat × Operation)) (name : String) :
    Accounted (({} : Broker).history run) name ((({} : Broker).after run).waiting name) := by
  have hwaiting : ({} : Broker).waiting name = [] := rfl
  obtain ⟨honce, htaken⟩ := delivered_once run
  refine ⟨?_, ?_, ?_, ?_, ?_, ?_⟩
  · simpa [hwaiting] using ({} : Broker).returned_inOrder run name
  · simpa [hwaiting] using ({} : Broker).accounted_for run name
  · rw [arrived_eq_filter]
    exact honce.sublist (List.filter_sublist.map _)
  · intro p hp
    rw [arrived_eq_filter] at hp
    exact List.mem_flatMap.mp (htaken (List.mem_of_mem_filter hp))
  · intro o ho p hp e he hreturned hlives
    have hfresh := (e.turn name).fresh hreturned
    simpa [Parcel.isExpired, Operated.expiresAt_of_taken hp, hlives] using hfresh
  · intro o ho p hp e he hpurged
    have hoverdue := (e.turn name).overdue hpurged
    rw [Parcel.isExpired, Operated.expiresAt_of_taken hp] at hoverdue
    split at hoverdue
    next => simp at hoverdue
    next hlives => exact ⟨hlives, by simpa using hoverdue⟩

/-- Of two messages one expires just when somebody receives: it is purged, and the other one is
returned. -/
example :
    let run : List (Nat × Operation) :=
      [(0, .inject (.queue "orders") { body := .text "a", timeToLive := 5 }),
        (0, .inject (.queue "orders") { body := .text "b", timeToLive := 6 }),
        (5, .receive "orders")]
    let history := ({} : Broker).history run
    (history.flatMap (·.purged "orders")).map Parcel.serial = [0] ∧
      (history.flatMap (·.returned "orders")).map Parcel.serial = [1] := by
  decide

end Sluice
