import Mathlib.Data.List.Nodup
import Mathlib.Data.List.Perm.Basic
import Sluice.Proofs.Broker.Handles

/-! # What a broker does with the messages that it takes in

An operation takes in one message at most, and numbers it. The message is delivered at once, or it
is put aside in a session; what is put aside leaves the session when the session commits, rolls back
or closes, and only a commit delivers it. Over a whole history nothing is taken in twice, and what
was taken in has been delivered, or withdrawn, or is still put aside.
-/

namespace Sluice

/-- What an operation does with messages that clients hand over. -/
inductive Move where
  | nothing
  /-- A message is taken in and delivered at once. -/
  | passes (p : Parcel)
  /-- A message is taken in and put aside in a transacted session. -/
  | keeps (s : Handle .session) (p : Parcel)
  | commits (s : Handle .session)
  | rollsBack (s : Handle .session)
  /-- A session is closed, and it makes no difference whether the closing is reported as failed. -/
  | closes (s : Handle .session)
deriving DecidableEq

/-- The messages that a move takes in. -/
def Move.taken : Move → List Parcel
  | .passes p => [p]
  | .keeps _ p => [p]
  | _ => []

/-- The session whose messages a move concerns. -/
def Move.session? : Move → Option (Handle .session)
  | .keeps s _ => some s
  | .commits s | .rollsBack s | .closes s => some s
  | _ => none

/-- What a session has put aside after a move. -/
def Move.hold (m : Move) (s : Handle .session) (held : List Parcel) : List Parcel :=
  match m with
  | .keeps t p => if t = s then held ++ [p] else held
  | .commits t | .rollsBack t | .closes t => if t = s then [] else held
  | _ => held

/-- An operation, the time at which it took place and the broker that it met. -/
structure Operated where
  broker : Broker
  now : Nat
  operation : Operation

namespace Operated

/-- The broker that an operation leaves. -/
def after (e : Operated) : Broker := (e.broker.operate e.now e.operation).2

/-- The messages that an operation delivers, in order. -/
def delivered (e : Operated) : List Parcel := e.broker.delivered e.now e.operation

/-- What an operation did with messages that clients hand over. An operation that fails does
nothing with them, except that a session loses what it has put aside when its closing fails. -/
def move (e : Operated) : Move :=
  match e.operation with
  | .inject d m => .passes (e.broker.pack e.now d.name m)
  | .call (.send p m) =>
      match (e.broker.send e.now p m).1, e.broker.openProducer? p with
      | .ok _, some r =>
          let parcel := e.broker.pack e.now r.destination (m.stamp r.settings)
          if (e.broker.pending r.session).isSome then .keeps r.session parcel else .passes parcel
      | _, _ => .nothing
  | .call (.commit s) =>
      match (e.broker.commit s).1 with
      | .ok _ => .commits s
      | .error _ => .nothing
  | .call (.rollback s) =>
      match (e.broker.rollback s).1 with
      | .ok _ => .rollsBack s
      | .error _ => .nothing
  | .call (.closeSession s) => .closes s
  | _ => .nothing

/-- The operations by which each move is made. -/
inductive Made (e : Operated) : Move → Prop
  | other : e.Made .nothing
  | injected (d : Destination) (m : Message) (hoperation : e.operation = .inject d m) :
      e.Made (.passes (e.broker.pack e.now d.name m))
  | sent (producer : Handle .producer) (m : Message) (r : ProducerRecord)
      (hoperation : e.operation = .call (.send producer m))
      (hreply : (e.broker.send e.now producer m).1 = .ok ())
      (hopen : e.broker.openProducer? producer = some r) :
      e.Made (.passes (e.broker.pack e.now r.destination (m.stamp r.settings)))
  | putAside (producer : Handle .producer) (m : Message) (r : ProducerRecord)
      (hoperation : e.operation = .call (.send producer m))
      (hreply : (e.broker.send e.now producer m).1 = .ok ())
      (hopen : e.broker.openProducer? producer = some r) :
      e.Made (.keeps r.session (e.broker.pack e.now r.destination (m.stamp r.settings)))
  | committed (s : Handle .session) (hoperation : e.operation = .call (.commit s)) :
      e.Made (.commits s)
  | rolledBack (s : Handle .session) (hoperation : e.operation = .call (.rollback s)) :
      e.Made (.rollsBack s)
  | closed (s : Handle .session) (hoperation : e.operation = .call (.closeSession s)) :
      e.Made (.closes s)

theorem made (e : Operated) : e.Made e.move := by
  unfold move
  split
  next d m hoperation => exact .injected d m hoperation
  next producer m hoperation =>
    split
    next r hreply hopen =>
      dsimp only
      split
      next => exact .putAside producer m r hoperation hreply hopen
      next => exact .sent producer m r hoperation hreply hopen
    next => exact .other
  next s hoperation =>
    split
    next => exact .committed s hoperation
    next => exact .other
  next s hoperation =>
    split
    next => exact .rolledBack s hoperation
    next => exact .other
  next s hoperation => exact .closed s hoperation
  next => exact .other

/-- The messages that an operation takes in. -/
def taken (e : Operated) : List Parcel := e.move.taken

end Operated

namespace Broker

/-- The operations of a run, each with the broker that it met. -/
def history (b : Broker) : List (Nat × Operation) → List Operated
  | [] => []
  | step :: rest => ⟨b, step.1, step.2⟩ :: history (b.operate step.1 step.2).2 rest

@[simp] theorem history_nil (b : Broker) : b.history [] = [] := rfl

@[simp] theorem history_cons (b : Broker) (step : Nat × Operation)
    (rest : List (Nat × Operation)) :
    b.history (step :: rest) =
      ⟨b, step.1, step.2⟩ :: (b.operate step.1 step.2).2.history rest := rfl

@[simp] theorem history_append (b : Broker) (first second : List (Nat × Operation)) :
    b.history (first ++ second) = b.history first ++ (b.after first).history second := by
  induction first generalizing b with
  | nil => rfl
  | cons step rest ih => simp [ih]

/-- What stands in a history before an operation is the history of a run that leads to it. -/
theorem history_split {b : Broker} {run : List (Nat × Operation)} {before : List Operated}
    {e : Operated} {behind : List Operated} (h : b.history run = before ++ e :: behind) :
    ∃ first second, run = first ++ (e.now, e.operation) :: second ∧
      b.history first = before ∧ b.after first = e.broker ∧ e.after.history second = behind := by
  induction before generalizing b run with
  | nil =>
      cases run with
      | nil => simp at h
      | cons step rest =>
          obtain ⟨rfl, rfl⟩ := List.cons.inj h
          exact ⟨[], rest, rfl, rfl, rfl, rfl⟩
  | cons x before ih =>
      cases run with
      | nil => simp at h
      | cons step rest =>
          obtain ⟨rfl, hrest⟩ := List.cons.inj h
          obtain ⟨first, second, rfl, rfl, hbroker, hbehind⟩ := ih hrest
          exact ⟨step :: first, second, rfl, rfl, hbroker, hbehind⟩

/-! ### Sessions and what they have put aside -/

/-- What a session has put aside; nothing if it is not transacted. -/
def held (b : Broker) (s : Handle .session) : List Parcel := (b.pending s).getD []

/-- What all sessions together have put aside. -/
def aside (b : Broker) : List Parcel := b.sessions.flatMap fun r => r.pending.getD []

/-- A session was opened, and is not open any more. -/
def sessionClosed (b : Broker) (s : Handle .session) : Prop :=
  ∃ r, b.sessions[s.index]? = some r ∧ r.isOpen = false

/-- How the sessions and the numbering of messages follow a move. -/
inductive Follows (b b' : Broker) : Move → Prop
  | same (hsessions : b'.sessions = b.sessions) (hserial : b'.nextSerial = b.nextSerial) :
      Follows b b' .nothing
  | opened {pending : Option (List Parcel)} (hnew : pending.getD [] = [])
      (hsessions : b'.sessions = b.sessions ++ [{ pending := pending }])
      (hserial : b'.nextSerial = b.nextSerial) : Follows b b' .nothing
  | passed {p : Parcel} (hp : p.serial = b.nextSerial) (hsessions : b'.sessions = b.sessions)
      (hserial : b'.nextSerial = b.nextSerial + 1) : Follows b b' (.passes p)
  | kept {s : Handle .session} {p : Parcel} {parcels : List Parcel} (hp : p.serial = b.nextSerial)
      (hpending : b.pending s = some parcels)
      (hsessions : b'.sessions = (b.setPending s (parcels ++ [p])).sessions)
      (hserial : b'.nextSerial = b.nextSerial + 1) : Follows b b' (.keeps s p)
  | committed {s : Handle .session} {parcels : List Parcel} (hopen : b.sessionOpen s)
      (hpending : b.pending s = some parcels)
      (hsessions : b'.sessions = (b.setPending s []).sessions)
      (hserial : b'.nextSerial = b.nextSerial) : Follows b b' (.commits s)
  | rolledBack {s : Handle .session} {parcels : List Parcel} (hopen : b.sessionOpen s)
      (hpending : b.pending s = some parcels)
      (hsessions : b'.sessions = (b.setPending s []).sessions)
      (hserial : b'.nextSerial = b.nextSerial) : Follows b b' (.rollsBack s)
  | closed {s : Handle .session}
      (hsessions : b'.sessions = b.sessions.modify s.index fun r =>
        { isOpen := false, pending := r.pending.map fun _ => [] })
      (hserial : b'.nextSerial = b.nextSerial) : Follows b b' (.closes s)

theorem sessions_dropSession (b : Broker) (s : Handle .session) :
    (b.dropSession s).sessions = b.sessions.modify s.index fun r =>
      { isOpen := false, pending := r.pending.map fun _ => [] } := by
  unfold dropSession
  dsimp only
  rw [sessionOpen_modifySession _ _ _ (by intro r; rfl)]
  split
  next => simp [countClosed, modifySession, List.modify_modify_eq, Function.comp_def]
  next hopen =>
    -- a session that is not open is marked so already
    apply List.ext_getElem?
    intro i
    by_cases hi : s.index = i
    · subst hi
      cases hr : b.sessions[s.index]? with
      | none => simp [modifySession, hr]
      | some r =>
          have hclosed : r.isOpen = false := by simpa [sessionOpen, hr] using hopen
          simp [modifySession, hr, hclosed]
    · simp [modifySession, hi]

theorem nextSerial_dropSession (b : Broker) (s : Handle .session) :
    (b.dropSession s).nextSerial = b.nextSerial := by
  unfold dropSession
  dsimp only
  split <;> rfl

theorem nextSerial_deliverAll (b : Broker) (parcels : List Parcel) :
    (b.deliverAll parcels).nextSerial = b.nextSerial := by
  rw [deliverAll_mailboxes]

theorem Reported.nextSerial {b met : Broker} {point : FaultPoint}
    {reply : Except BrokerError Unit} (h : b.Reported point reply met) :
    met.nextSerial = b.nextSerial := by
  cases h <;> rfl

/-- Closing a connection does not concern messages. -/
theorem dropConnection_sessions (b : Broker) (c : Handle .connection) :
    (b.dropConnection c).sessions = b.sessions ∧
      (b.dropConnection c).nextSerial = b.nextSerial := by
  unfold dropConnection
  split <;> exact ⟨rfl, rfl⟩

/-- Closing a producer does not concern messages. -/
theorem dropProducer_sessions (b : Broker) (p : Handle .producer) :
    (b.dropProducer p).sessions = b.sessions ∧ (b.dropProducer p).nextSerial = b.nextSerial := by
  unfold dropProducer
  split <;> exact ⟨rfl, rfl⟩

theorem move_of_error {b : Broker} {now : Nat} {c : Call} {e : BrokerError}
    (hc : c.isClosing = false) (h : (b.perform now c).1 = .error e) :
    Operated.move ⟨b, now, .call c⟩ = .nothing := by
  cases c with
  | send p m => simp only [Operated.move, show (b.send now p m).1 = .error e from h]
  | commit s => simp only [Operated.move, show (b.commit s).1 = .error e from h]
  | rollback s => simp only [Operated.move, show (b.rollback s).1 = .error e from h]
  | closeSession s => simp [Call.isClosing] at hc
  | _ => rfl

theorem follows_perform (b : Broker) (now : Nat) (c : Call) :
    b.Follows (b.perform now c).2 (Operated.move ⟨b, now, .call c⟩) := by
  have heffect := b.perform_effect now c
  -- the move depends on the reply, so the reply stays known beside the effect
  generalize hreply : (b.perform now c).1 = reply at heffect
  generalize (b.perform now c).2 = b' at heffect ⊢
  cases heffect with
  | refused e he hc =>
      rw [move_of_error hc hreply]
      exact .same rfl rfl
  | faulted hpoint harmed hc =>
      rw [move_of_error hc hreply]
      exact .same rfl rfl
  | disconnected c h =>
      obtain ⟨hsessions, hserial⟩ := dropConnection_sessions _ c
      exact .same (hsessions.trans h.sameHandles.sessions) (hserial.trans h.nextSerial)
  | sessionOpened c transacted mode hopen =>
      refine .opened ?_ rfl rfl
      split <;> rfl
  | committed s hopen hpending =>
      simp only [perform] at hreply
      simp only [Operated.move, hreply]
      exact .committed hopen hpending (sameHandles_deliverAll _ _).sessions
        (nextSerial_deliverAll _ _)
  | rolledBack s hopen hpending =>
      simp only [perform] at hreply
      simp only [Operated.move, hreply]
      exact .rolledBack hopen hpending rfl rfl
  | sessionClosed s h =>
      refine .closed ?_ ((nextSerial_dropSession _ s).trans h.nextSerial)
      rw [sessions_dropSession, h.sameHandles.sessions]
  | putAside p m hopen hpending =>
      simp only [perform] at hreply
      simp only [Operated.move, hreply, hopen, hpending, Option.isSome_some, if_true]
      exact .kept rfl hpending rfl rfl
  | sent p m hopen hpending =>
      simp only [perform] at hreply
      simp only [Operated.move, hreply, hopen, hpending, Option.isSome_none]
      exact .passed rfl rfl rfl
  | producerClosed p h =>
      obtain ⟨hsessions, hserial⟩ := dropProducer_sessions _ p
      exact .same (hsessions.trans h.sameHandles.sessions) (hserial.trans h.nextSerial)
  | _ => exact .same rfl rfl

end Broker

/-- The messages that a move delivers. -/
def Move.delivers (m : Move) (b : Broker) : List Parcel :=
  match m with
  | .passes p => [p]
  | .commits s => b.held s
  | _ => []

/-- The messages that a move takes out of a session without delivering them. -/
def Move.withdraws (m : Move) (b : Broker) : List Parcel :=
  match m with
  | .rollsBack s | .closes s => b.held s
  | _ => []

/-- What a session had put aside, and what it took in, it passes on or puts aside again. -/
theorem Move.balanced {m : Move} {s : Handle .session} (h : m.session? = some s) (b : Broker)
    (p : Parcel) :
    (m.delivers b).count p + (m.withdraws b).count p + (m.hold s (b.held s)).count p =
      (b.held s).count p + m.taken.count p := by
  cases m with
  | nothing | passes q => simp [session?] at h
  | keeps t q | commits t | rollsBack t | closes t =>
      obtain rfl := Option.some.inj h
      simp [delivers, withdraws, hold, taken]

namespace Broker

theorem flatMap_modify_perm {α β : Type} (l : List α) (i : Nat) (f : α → α) (g : α → List β)
    {x : α} (h : l[i]? = some x) :
    ((l.modify i f).flatMap g ++ g x).Perm (l.flatMap g ++ g (f x)) := by
  induction l generalizing i with
  | nil => simp at h
  | cons y l ih =>
      cases i with
      | zero =>
          obtain rfl : y = x := by simpa using h
          rw [List.modify_zero_cons, List.flatMap_cons, List.flatMap_cons]
          refine List.perm_append_comm.trans ?_
          rw [List.append_assoc]
          exact List.perm_append_comm.append_left (g y)
      | succ i =>
          rw [List.modify_succ_cons, List.flatMap_cons, List.flatMap_cons, List.append_assoc,
            List.append_assoc]
          exact (ih i (by simpa using h)).append_left _

theorem held_of_sessions {b b' : Broker} (h : b'.sessions = b.sessions) (s : Handle .session) :
    b'.held s = b.held s := by
  simp only [held, pending, h]

variable {b b' : Broker} {s : Handle .session} {f : SessionRecord → SessionRecord}

theorem held_modify (h : b'.sessions = b.sessions.modify s.index f) {parcels : List Parcel}
    (hrecord : ∀ r, b.sessions[s.index]? = some r → (f r).pending.getD [] = parcels)
    (hnone : b.sessions[s.index]? = none → parcels = []) (t : Handle .session) :
    b'.held t = if s = t then parcels else b.held t := by
  simp only [held, pending, h]
  split
  next heq =>
    subst heq
    cases hr : b.sessions[s.index]? with
    | none => simp [hr, hnone hr]
    | some r => simp [hr, hrecord r hr]
  next hne =>
    have hindex : s.index ≠ t.index := fun heq => hne (congrArg Handle.mk heq)
    simp [hindex]

theorem held_setPending {parcels parcels' : List Parcel} (hpending : b.pending s = some parcels)
    (h : b'.sessions = (b.setPending s parcels').sessions) (t : Handle .session) :
    b'.held t = if s = t then parcels' else b.held t := by
  obtain ⟨r, hr, -⟩ := getElem?_of_pending hpending
  refine held_modify h (by intro r _; rfl) ?_ t
  intro hnone
  simp [hnone] at hr

theorem held_append {pending : Option (List Parcel)} (hnew : pending.getD [] = [])
    (h : b'.sessions = b.sessions ++ [{ pending := pending }]) (t : Handle .session) :
    b'.held t = b.held t := by
  simp only [held, Broker.pending, h, List.getElem?_append]
  split
  next => rfl
  next hlt =>
    rw [List.getElem?_eq_none (Nat.le_of_not_lt hlt)]
    cases hr : [({ pending := pending } : SessionRecord)][t.index - b.sessions.length]? with
    | none => rfl
    | some r =>
        obtain rfl : { pending := pending } = r :=
          (List.mem_singleton.mp (List.mem_of_getElem? hr)).symm
        exact hnew

/-- What leaves one session and what comes to it is all that changes of what is put aside. -/
theorem aside_modify (h : b'.sessions = b.sessions.modify s.index f) :
    (b'.aside ++ b.held s).Perm (b.aside ++ b'.held s) := by
  cases hr : b.sessions[s.index]? with
  | none =>
      have hsame : b'.sessions = b.sessions := by
        rw [h, List.modify_eq_self (List.getElem?_eq_none_iff.mp hr)]
      rw [held_of_sessions hsame, aside, aside, hsame]
  | some r =>
      have hheld : b.held s = r.pending.getD [] := by simp [held, pending, hr]
      have hheld' : b'.held s = (f r).pending.getD [] := by simp [held, pending, h, hr]
      rw [hheld, hheld', aside, aside, h]
      exact flatMap_modify_perm _ _ _ (fun r => r.pending.getD []) hr

end Broker

namespace Operated

/-- Whatever an operation is, sessions and numbering follow its move. -/
theorem follows (e : Operated) : e.broker.Follows e.after e.move := by
  obtain ⟨b, now, o⟩ := e
  cases o with
  | inject d m => exact .passed rfl rfl rfl
  | declare d =>
      refine .same ?_ ?_ <;>
      · simp only [after, Broker.operate, Broker.declare]
        split <;> rfl
  | receive name =>
      refine .same ?_ ?_ <;>
      · simp only [after, Broker.operate, Broker.receive]
        split <;> rfl
  | failNext point =>
      refine .same ?_ ?_ <;>
      · simp only [after, Broker.operate, Broker.failNext]
        split <;> rfl
  | call c => exact b.follows_perform now c
  | _ => exact .same rfl rfl

theorem delivered_eq (e : Operated) : e.delivered = e.move.delivers e.broker := by
  obtain ⟨b, now, o⟩ := e
  cases o with
  | call c =>
      cases c with
      | send p m =>
          simp only [delivered, Broker.delivered, move]
          cases (b.send now p m).1 with
          | error e => rfl
          | ok =>
              cases b.openProducer? p with
              | none => rfl
              | some r =>
                  dsimp only
                  split <;> rfl
      | commit s =>
          simp only [delivered, Broker.delivered, move]
          cases (b.commit s).1 <;> rfl
      | rollback s =>
          simp only [delivered, Broker.delivered, move]
          cases (b.rollback s).1 <;> rfl
      | _ => rfl
  | _ => rfl

/-- What is put aside changes as the move says, session by session. -/
theorem held_after (e : Operated) (s : Handle .session) :
    e.after.held s = e.move.hold s (e.broker.held s) := by
  have hfollows := e.follows
  generalize e.move = m at hfollows ⊢
  cases hfollows with
  | same hsessions | passed _ hsessions => exact Broker.held_of_sessions hsessions s
  | opened hnew hsessions => exact Broker.held_append hnew hsessions s
  | @kept t p parcels hp hpending hsessions =>
      rw [Broker.held_setPending hpending hsessions, Move.hold]
      split
      next heq =>
        subst heq
        rw [Broker.held, hpending, Option.getD_some]
      next => rfl
  | committed _ hpending hsessions | rolledBack _ hpending hsessions =>
      exact Broker.held_setPending hpending hsessions s
  | closed hsessions =>
      refine Broker.held_modify hsessions ?_ (fun _ => rfl) s
      intro r _
      cases r.pending <;> rfl

/-- The messages that an operation takes out of a session without delivering them. -/
def withdrawn (e : Operated) : List Parcel := e.move.withdraws e.broker

/-- Nothing that is taken in, or that has been put aside, gets lost in an operation. -/
theorem conserved (e : Operated) :
    (e.delivered ++ e.withdrawn ++ e.after.aside).Perm (e.broker.aside ++ e.taken) := by
  have hfollows := e.follows
  have hheld := e.held_after
  rw [delivered_eq, withdrawn, taken]
  generalize e.move = m at hfollows hheld ⊢
  rw [List.perm_iff_count]
  intro p
  have hmoved : ∀ (s : Handle .session) (f : SessionRecord → SessionRecord),
      m.session? = some s → e.after.sessions = e.broker.sessions.modify s.index f →
        (m.delivers e.broker ++ m.withdraws e.broker ++ e.after.aside).count p =
          (e.broker.aside ++ m.taken).count p := by
    intro s f hs h
    have hbalanced := Move.balanced hs e.broker p
    have hcount := (Broker.aside_modify h).count_eq p
    rw [hheld] at hcount
    simp only [List.count_append] at hcount ⊢
    omega
  cases hfollows with
  | same hsessions => simp [Move.delivers, Move.withdraws, Move.taken, Broker.aside, hsessions]
  | opened hnew hsessions =>
      simp [Move.delivers, Move.withdraws, Move.taken, Broker.aside, hsessions, hnew]
  | passed hp hsessions =>
      simp [Move.delivers, Move.withdraws, Move.taken, Broker.aside, hsessions, List.count_cons,
        Nat.add_comm]
  | kept _ _ hsessions | committed _ _ hsessions | rolledBack _ _ hsessions | closed hsessions =>
      exact hmoved _ _ rfl hsessions

/-- The messages that are taken in are numbered one after the other. -/
theorem serials (e : Operated) :
    e.after.nextSerial = e.broker.nextSerial + e.taken.length ∧
      e.taken.map Parcel.serial = List.range' e.broker.nextSerial e.taken.length := by
  have hfollows := e.follows
  rw [taken]
  generalize e.move = m at hfollows ⊢
  cases hfollows with
  | passed hp _ hserial | kept hp _ _ hserial => simp [Move.taken, hserial, hp]
  | same _ hserial | opened _ _ hserial | committed _ _ _ hserial | rolledBack _ _ _ hserial
  | closed _ hserial => simp [Move.taken, hserial]

/-- A message is taken in as the broker packs it at that time. -/
theorem packed {e : Operated} {p : Parcel} (h : p ∈ e.taken) :
    ∃ destination m, p = e.broker.pack e.now destination m := by
  have hmade := e.made
  rw [taken] at h
  generalize e.move = m at hmade h
  cases hmade with
  | injected d m => exact ⟨d.name, m, List.mem_singleton.mp h⟩
  | sent producer m r | putAside producer m r =>
      exact ⟨r.destination, m.stamp r.settings, List.mem_singleton.mp h⟩
  | other | committed | rolledBack | closed => simp [Move.taken] at h

/-- The expiry of a message is counted from the time at which it is taken in. -/
theorem expiresAt_of_taken {e : Operated} {p : Parcel} (h : p ∈ e.taken) :
    p.expiresAt =
      if p.message.timeToLive = 0 then none else some (e.now + p.message.timeToLive) := by
  obtain ⟨destination, m, rfl⟩ := packed h
  rfl

end Operated

namespace Broker

variable (b : Broker) (run : List (Nat × Operation))

theorem serials_taken :
    ((b.history run).flatMap Operated.taken).map Parcel.serial =
      List.range' b.nextSerial ((b.history run).flatMap Operated.taken).length := by
  induction run generalizing b with
  | nil => rfl
  | cons step rest ih =>
      let e : Operated := ⟨b, step.1, step.2⟩
      obtain ⟨hnext, hserials⟩ := e.serials
      have hrest := ih e.after
      change (e.taken ++ (e.after.history rest).flatMap Operated.taken).map Parcel.serial =
        List.range' b.nextSerial (e.taken ++ (e.after.history rest).flatMap Operated.taken).length
      rw [List.map_append, hserials, hrest, hnext, List.length_append, ← List.range'_append_1]

/-- Nothing is taken in twice. -/
theorem nodup_serials_taken :
    (((b.history run).flatMap Operated.taken).map Parcel.serial).Nodup := by
  rw [serials_taken]
  exact List.nodup_range'

theorem not_mem_of_nodup_flatMap {α β : Type} {f : α → List β} {a b c : List α} {x x' : α}
    (h : ((a ++ x :: (b ++ x' :: c)).flatMap f).Nodup) {q : β} (hq : q ∈ f x) : q ∉ f x' := by
  rw [List.flatMap_append, List.flatMap_cons] at h
  intro hq'
  have hdisjoint := List.disjoint_of_nodup_append h.of_append_right
  refine hdisjoint hq (List.mem_flatMap.mpr ⟨x', ?_, hq'⟩)
  exact List.mem_append_right _ List.mem_cons_self

/-- There is one operation in a history that takes a message in, and one place where it stands. -/
theorem taken_once {b : Broker} {run : List (Nat × Operation)} {e e' : Operated}
    {before behind before' behind' : List Operated} (h : b.history run = before ++ e :: behind)
    (h' : b.history run = before' ++ e' :: behind') {p : Parcel} (hp : p ∈ e.taken)
    (hp' : p ∈ e'.taken) : before = before' ∧ e = e' ∧ behind = behind' := by
  have hnodup : ((b.history run).flatMap Operated.taken).Nodup :=
    (b.nodup_serials_taken run).of_map
  rcases List.append_eq_append_iff.mp (h.symm.trans h') with ⟨c, rfl, hc⟩ | ⟨c, rfl, hc⟩
  · cases c with
    | nil =>
        obtain ⟨rfl, rfl⟩ := List.cons.inj hc
        exact ⟨(List.append_nil _).symm, rfl, rfl⟩
    | cons x c =>
        obtain ⟨rfl, rfl⟩ := List.cons.inj hc
        rw [h] at hnodup
        exact absurd hp' (not_mem_of_nodup_flatMap hnodup hp)
  · cases c with
    | nil =>
        obtain ⟨rfl, rfl⟩ := List.cons.inj hc
        exact ⟨List.append_nil _, rfl, rfl⟩
    | cons x c =>
        obtain ⟨rfl, rfl⟩ := List.cons.inj hc
        rw [h'] at hnodup
        exact absurd hp (not_mem_of_nodup_flatMap hnodup hp')

/-- If in every operation what comes in goes out or is stored, then so it is over a run. -/
theorem balanced (stored : Broker → List Parcel) (gone come : Operated → List Parcel)
    (hstep : ∀ e, (gone e ++ stored e.after).Perm (stored e.broker ++ come e)) :
    ((b.history run).flatMap gone ++ stored (b.after run)).Perm
      (stored b ++ (b.history run).flatMap come) := by
  induction run generalizing b with
  | nil => simp
  | cons step rest ih =>
      let e : Operated := ⟨b, step.1, step.2⟩
      have hrest := (ih e.after).append_left (gone e)
      have hfirst := (hstep e).append_right ((e.after.history rest).flatMap come)
      rw [List.append_assoc] at hfirst
      simpa [e, Operated.after] using hrest.trans hfirst

/-- Over a run what was taken in has been delivered, or withdrawn, or is still put aside. -/
theorem conserved :
    ((b.history run).flatMap Operated.delivered ++ (b.history run).flatMap Operated.withdrawn ++
      (b.after run).aside).Perm (b.aside ++ (b.history run).flatMap Operated.taken) :=
  ((List.flatMap_append_perm _ _ _).append_right _).trans
    (b.balanced run aside _ _ Operated.conserved)

/-- Nothing is delivered twice, and only what was taken in. -/
theorem delivered_once (run : List (Nat × Operation)) :
    ((((({} : Broker).history run).flatMap Operated.delivered).map Parcel.serial).Nodup) ∧
      (({} : Broker).history run).flatMap Operated.delivered ⊆
        (({} : Broker).history run).flatMap Operated.taken := by
  have hconserved := ({} : Broker).conserved run
  have hnodup := ({} : Broker).nodup_serials_taken run
  have haside : ({} : Broker).aside = [] := rfl
  rw [haside, List.nil_append, List.append_assoc] at hconserved
  constructor
  · have hall := (hconserved.map Parcel.serial).nodup_iff.mpr hnodup
    rw [List.map_append] at hall
    exact hall.of_append_left
  · intro p hp
    exact hconserved.subset (List.mem_append_left _ hp)

end Broker

end Sluice
