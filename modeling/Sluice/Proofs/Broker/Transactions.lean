import Mathlib.Data.List.DropRight
import Sluice.Proofs.Broker.History

/-! # When the messages of a transacted session can be seen

What a transacted session has put aside is what was sent on it since it was committed or rolled
back last: this holds until the session is closed, and a closed session commits no more. So the
next commit delivers just that, and a message gets through exactly if a commit comes before any
rollback and before any closing.
-/

namespace Sluice

namespace Operated

/-- A session is opened as a transacted one. -/
def Opens (s : Handle .session) (e : Operated) : Prop :=
  ∃ c mode, e.operation = .call (.createSession c true mode) ∧
    (e.broker.createSession c true).1 = .ok s

/-- A message is sent successfully through a producer of a session, and the broker packs it so. -/
def Sends (s : Handle .session) (p : Parcel) (e : Operated) : Prop :=
  ∃ producer m r, e.operation = .call (.send producer m) ∧
    (e.broker.send e.now producer m).1 = .ok () ∧ e.broker.openProducer? producer = some r ∧
      r.session = s ∧ p = e.broker.pack e.now r.destination (m.stamp r.settings)

end Operated

namespace Move

/-- The messages that a move puts aside in a session. -/
def kept (s : Handle .session) : Move → List Parcel
  | .keeps t p => if t = s then [p] else []
  | _ => []

/-- Whether a move commits a session or rolls it back. -/
def settles (s : Handle .session) : Move → Bool
  | .commits t | .rollsBack t => t = s
  | _ => false

theorem settles_iff {m : Move} {s : Handle .session} :
    m.settles s = true ↔ m = .commits s ∨ m = .rollsBack s := by
  cases m <;> simp [settles]

/-- Unless a session is closed, what it holds is what was put aside since it was settled last. -/
theorem hold_eq {m : Move} {s : Handle .session} (h : m ≠ .closes s) (parcels : List Parcel) :
    m.hold s parcels = if m.settles s then [] else parcels ++ m.kept s := by
  cases m with
  | nothing | passes p => simp [hold, settles, kept]
  | keeps t p | commits t | rollsBack t =>
      by_cases heq : t = s <;> simp [hold, settles, kept, heq]
  | closes t =>
      have hne : t ≠ s := by
        rintro rfl
        exact h rfl
      simp [hold, settles, kept, hne]

end Move

/-- What was put aside in a session since it was committed or rolled back last. -/
def outstanding (s : Handle .session) (history : List Operated) : List Parcel :=
  (history.rtakeWhile fun e => !e.move.settles s).flatMap (·.move.kept s)

variable {s : Handle .session}

theorem outstanding_concat (history : List Operated) (e : Operated) :
    outstanding s (history ++ [e]) =
      if e.move.settles s then [] else outstanding s history ++ e.move.kept s := by
  simp only [outstanding, List.rtakeWhile_concat]
  cases e.move.settles s <;> simp

theorem outstanding_append {recent : List Operated} (h : ∀ e ∈ recent, e.move.settles s = false)
    (history : List Operated) :
    outstanding s (history ++ recent) =
      outstanding s history ++ recent.flatMap (·.move.kept s) := by
  induction recent using List.reverseRecOn with
  | nil => simp
  | append_singleton recent e ih =>
      have hrecent := ih fun x hx => h x (List.mem_append_left _ hx)
      have hlast := h e (List.mem_append_right _ List.mem_cons_self)
      rw [← List.append_assoc, outstanding_concat, hlast, hrecent]
      simp

/-- A message that is outstanding was put aside, and since then nothing was settled. -/
theorem exists_of_mem_outstanding {history : List Operated} {p : Parcel}
    (h : p ∈ outstanding s history) :
    ∃ before e recent, history = before ++ e :: recent ∧ e.move = .keeps s p ∧
      ∀ x ∈ recent, x.move.settles s = false := by
  obtain ⟨e, he, hp⟩ := List.mem_flatMap.mp h
  obtain ⟨early, recent, hsplit⟩ := List.append_of_mem he
  refine ⟨history.rdropWhile (fun e => !e.move.settles s) ++ early, e, recent, ?_, ?_, ?_⟩
  · rw [List.append_assoc, ← hsplit, List.rdropWhile_append_rtakeWhile]
  · simp only [Move.kept] at hp
    split at hp
    next t q hmove =>
      split at hp
      next heq =>
        rw [hmove, heq, List.mem_singleton.mp hp]
      next => simp at hp
    next => simp at hp
  · intro x hx
    have hmem : x ∈ history.rtakeWhile fun e => !e.move.settles s := by
      rw [hsplit]
      exact List.mem_append_right _ (List.mem_cons_of_mem _ hx)
    simpa using List.mem_rtakeWhile_imp hmem

namespace Broker

variable {b : Broker}

/-- A session stays transacted or plain, and once it is closed it stays closed. -/
structure Remains (r r' : SessionRecord) : Prop where
  pending : r'.pending.isSome = r.pending.isSome
  closed : r.isOpen = false → r'.isOpen = false

theorem Remains.refl (r : SessionRecord) : Remains r r := ⟨rfl, id⟩

theorem Remains.trans {r r' r'' : SessionRecord} (h : Remains r r') (h' : Remains r' r'') :
    Remains r r'' :=
  ⟨h'.pending.trans h.pending, fun hclosed => h'.closed (h.closed hclosed)⟩

theorem remains_modify {b' : Broker} {t : Handle .session} {f : SessionRecord → SessionRecord}
    (hsessions : b'.sessions = b.sessions.modify t.index f) {r : SessionRecord}
    (hr : b.sessions[s.index]? = some r) (hf : t = s → Remains r (f r)) :
    ∃ r', b'.sessions[s.index]? = some r' ∧ Remains r r' := by
  rw [hsessions, List.getElem?_modify, hr]
  by_cases heq : t = s
  · exact ⟨f r, by simp [heq], hf heq⟩
  · have hindex : t.index ≠ s.index := fun hindex => heq (congrArg Handle.mk hindex)
    exact ⟨r, by simp [hindex], .refl r⟩

theorem remains_setPending {b' : Broker} {t : Handle .session} {parcels parcels' : List Parcel}
    (hpending : b.pending t = some parcels)
    (hsessions : b'.sessions = (b.setPending t parcels').sessions) {r : SessionRecord}
    (hr : b.sessions[s.index]? = some r) :
    ∃ r', b'.sessions[s.index]? = some r' ∧ Remains r r' := by
  refine remains_modify hsessions hr ?_
  rintro rfl
  have hsome : r.pending = some parcels := by simpa [pending, hr] using hpending
  exact ⟨by simp [hsome], id⟩

end Broker

namespace Operated

variable {e : Operated} {r : SessionRecord} {p : Parcel}

/-- No operation removes a session or opens it again. -/
theorem remains (e : Operated) (hr : e.broker.sessions[s.index]? = some r) :
    ∃ r', e.after.sessions[s.index]? = some r' ∧ Broker.Remains r r' := by
  have hfollows := e.follows
  generalize e.move = m at hfollows
  cases hfollows with
  | same hsessions | passed _ hsessions => exact ⟨r, by rw [hsessions, hr], .refl r⟩
  | opened hnew hsessions =>
      refine ⟨r, ?_, .refl r⟩
      rw [hsessions, List.getElem?_append_left (List.getElem?_eq_some_iff.mp hr).1, hr]
  | kept _ hpending hsessions | committed _ hpending hsessions | rolledBack _ hpending hsessions =>
      exact Broker.remains_setPending hpending hsessions hr
  | closed hsessions =>
      refine Broker.remains_modify hsessions hr ?_
      rintro rfl
      exact ⟨by simp, fun _ => rfl⟩

/-- A session that is there is closed by its closing, however that is reported. -/
theorem closed_of_closes (h : e.move = .closes s) (hr : e.broker.sessions[s.index]? = some r) :
    e.after.sessionClosed s := by
  have hfollows := e.follows
  rw [h] at hfollows
  cases hfollows with
  | closed hsessions => exact ⟨_, by rw [hsessions, List.getElem?_modify_eq, hr]; rfl, rfl⟩

theorem exists_session_of_keeps (h : e.move = .keeps s p) :
    ∃ r, e.broker.sessions[s.index]? = some r := by
  have hfollows := e.follows
  rw [h] at hfollows
  cases hfollows with
  | kept hp hpending =>
      obtain ⟨r, hr, -⟩ := Broker.getElem?_of_pending hpending
      exact ⟨r, hr⟩

/-- Only an open transacted session is committed. -/
theorem open_of_commits (h : e.move = .commits s) : e.broker.sessionOpen s := by
  have hfollows := e.follows
  rw [h] at hfollows
  cases hfollows with
  | committed hopen => exact hopen

end Operated

namespace Broker

theorem not_sessionClosed_of_open {b : Broker} (h : b.sessionOpen s) : ¬ b.sessionClosed s := by
  rintro ⟨r, hr, hclosed⟩
  simp [sessionOpen, hr, hclosed] at h

theorem remains_after (b : Broker) (run : List (Nat × Operation)) {r : SessionRecord}
    (hr : b.sessions[s.index]? = some r) :
    ∃ r', (b.after run).sessions[s.index]? = some r' ∧ Remains r r' := by
  induction run generalizing b r with
  | nil => exact ⟨r, hr, .refl r⟩
  | cons step rest ih =>
      obtain ⟨r', hr', hremains⟩ := Operated.remains ⟨b, step.1, step.2⟩ hr
      obtain ⟨r'', hr'', hremains'⟩ := ih _ hr'
      exact ⟨r'', hr'', hremains.trans hremains'⟩

/-- Until a session is closed it holds what is outstanding. -/
theorem held_eq_outstanding (run : List (Nat × Operation))
    (h : ¬ (({} : Broker).after run).sessionClosed s) :
    (({} : Broker).after run).held s = outstanding s (({} : Broker).history run) := by
  induction run using List.reverseRecOn with
  | nil => rfl
  | append_singleton run step ih =>
      let e : Operated := ⟨({} : Broker).after run, step.1, step.2⟩
      have hafter : ({} : Broker).after (run ++ [step]) = e.after := by simp [e, Operated.after]
      have hhistory : ({} : Broker).history (run ++ [step]) = ({} : Broker).history run ++ [e] := by
        simp [e]
      rw [hafter] at h
      have hbefore : ¬ e.broker.sessionClosed s := by
        rintro ⟨r, hr, hclosed⟩
        obtain ⟨r', hr', hremains⟩ := e.remains hr
        exact h ⟨r', hr', hremains.closed hclosed⟩
      have ih : e.broker.held s = outstanding s (({} : Broker).history run) := ih hbefore
      rw [hafter, hhistory, outstanding_concat, e.held_after, ← ih]
      by_cases hcloses : e.move = .closes s
      · -- a session that does not exist yet holds nothing, and so it may be closed
        have hnone : e.broker.sessions[s.index]? = none := by
          rw [Option.eq_none_iff_forall_ne_some]
          intro r hr
          exact h (Operated.closed_of_closes hcloses hr)
        have hheld : e.broker.held s = [] := by simp [held, pending, hnone]
        simp [hcloses, hheld, Move.hold, Move.settles, Move.kept]
      · exact Move.hold_eq hcloses _

end Broker

namespace Operated

variable {e : Operated} {p : Parcel}

theorem sends_of_keeps (h : e.move = .keeps s p) : e.Sends s p := by
  have hmade := e.made
  rw [h] at hmade
  cases hmade with
  | putAside producer m r hoperation hreply hopen =>
      exact ⟨producer, m, r, hoperation, hreply, hopen, rfl, rfl⟩

theorem keeps_of_sends (h : e.Sends s p) (hpending : (e.broker.pending s).isSome) :
    e.move = .keeps s p := by
  obtain ⟨producer, m, r, hoperation, hreply, hopen, rfl, rfl⟩ := h
  simp only [move, hoperation, hreply, hopen, hpending, if_true]

theorem operation_of_commits (h : e.move = .commits s) : e.operation = .call (.commit s) := by
  have hmade := e.made
  rw [h] at hmade
  cases hmade with
  | committed s hoperation => exact hoperation

/-- What a commit delivers stands behind everything that waits. -/
theorem waiting_of_commits (h : e.move = .commits s) (name : String) :
    e.after.waiting name =
      e.broker.waiting name ++ e.delivered.filter fun p => p.destination = name := by
  obtain ⟨b, now, o⟩ := e
  obtain rfl : o = .call (.commit s) := operation_of_commits h
  rcases b.mailboxes_perform now (.commit s) with hmailboxes | ⟨w, r, hbrowse, -⟩
  · exact (Broker.waiting_congr hmailboxes name).trans (b.waiting_deliverAll _ name)
  · simp at hbrowse

/-- A commit that fails delivers nothing, and everything stays where it was. -/
theorem failed_commit (hoperation : e.operation = .call (.commit s)) (h : e.move ≠ .commits s) :
    e.delivered = [] ∧ e.after.waiting = e.broker.waiting ∧
      e.after.pending = e.broker.pending := by
  obtain ⟨b, now, o⟩ := e
  obtain rfl : o = .call (.commit s) := hoperation
  have heffect := b.perform_effect now (.commit s)
  change _ ∧ (b.perform now (.commit s)).2.waiting = _ ∧ (b.perform now (.commit s)).2.pending = _
  rw [delivered_eq]
  generalize hreply : (b.perform now (.commit s)).1 = reply at heffect
  generalize (b.perform now (.commit s)).2 = b' at heffect ⊢
  cases heffect with
  | refused e he hc =>
      rw [Broker.move_of_error hc hreply]
      exact ⟨rfl, rfl, rfl⟩
  | faulted hpoint harmed hc =>
      rw [Broker.move_of_error hc hreply]
      exact ⟨rfl, rfl, rfl⟩
  | committed hopen hpending =>
      simp only [Broker.perform] at hreply
      simp only [move, hreply] at h
      exact absurd rfl h

/-- A session that is opened as transacted has something to put messages aside. -/
theorem pending_of_opens (h : e.Opens s) :
    ∃ r, e.after.sessions[s.index]? = some r ∧ r.pending.isSome := by
  obtain ⟨b, now, o⟩ := e
  obtain ⟨c, mode, rfl, hreply⟩ := h
  have heffect := b.perform_effect now (.createSession c true mode)
  have hreply : (b.perform now (.createSession c true mode)).1 = .ok s := hreply
  rw [hreply] at heffect
  change ∃ r, (b.perform now (.createSession c true mode)).2.sessions[s.index]? = some r ∧ _
  generalize (b.perform now (.createSession c true mode)).2 = b' at heffect ⊢
  cases heffect with
  | sessionOpened => exact ⟨{ pending := some [] }, by simp [Broker.countOpened], rfl⟩

end Operated

namespace Broker

variable {b : Broker} {run : List (Nat × Operation)} {before mid behind : List Operated}
  {e c : Operated} {p : Parcel}

/-- A session that is closed between two operations is closed at the second. -/
theorem sessionClosed_between (h : b.history run = before ++ e :: (mid ++ c :: behind))
    {r : SessionRecord} (hr : e.broker.sessions[s.index]? = some r) {x : Operated} (hx : x ∈ mid)
    (hcloses : x.move = .closes s) : c.broker.sessionClosed s := by
  obtain ⟨-, second, -, -, -, hsecond⟩ := history_split h
  obtain ⟨early, late, rfl⟩ := List.append_of_mem hx
  rw [List.append_assoc, List.cons_append] at hsecond
  obtain ⟨upto, third, -, -, hupto, hthird⟩ := history_split hsecond
  obtain ⟨rest, -, -, -, hrest, -⟩ := history_split hthird
  -- the session was there when the message was sent, so it was there to be closed
  obtain ⟨r₁, hr₁, -⟩ := e.remains hr
  obtain ⟨r₂, hr₂, -⟩ := remains_after e.after upto hr₁
  rw [hupto] at hr₂
  obtain ⟨r₃, hr₃, hclosed⟩ := Operated.closed_of_closes hcloses hr₂
  obtain ⟨r₄, hr₄, hremains⟩ := remains_after x.after rest hr₃
  rw [hrest] at hr₄
  exact ⟨r₄, hr₄, hremains.closed hclosed⟩

/-- A commit delivers what is outstanding. -/
theorem delivered_of_commits (h : ({} : Broker).history run = before ++ c :: behind)
    (hc : c.move = .commits s) : c.delivered = outstanding s before := by
  obtain ⟨first, -, -, rfl, hbroker, -⟩ := history_split h
  have hopen := not_sessionClosed_of_open (Operated.open_of_commits hc)
  rw [← hbroker] at hopen
  rw [Operated.delivered_eq, hc, Move.delivers, ← hbroker, held_eq_outstanding first hopen]

/-- If a session is not rolled back before it commits, there is a first commit with nothing settled
before it. -/
theorem exists_first_commit (behind : List Operated) (hc : c.move = .commits s)
    (hmid : ∀ x ∈ mid, x.move ≠ .rollsBack s) :
    ∃ early d late, mid ++ c :: behind = early ++ d :: late ∧ d.move = .commits s ∧
      ∀ x ∈ early, x.move.settles s = false := by
  induction mid with
  | nil => exact ⟨[], c, behind, rfl, hc, by simp⟩
  | cons x mid ih =>
      by_cases hx : x.move = .commits s
      · exact ⟨[], x, mid ++ c :: behind, rfl, hx, by simp⟩
      · obtain ⟨early, d, late, heq, hd, hearly⟩ :=
          ih fun y hy => hmid y (List.mem_cons_of_mem _ hy)
        refine ⟨x :: early, d, late, by rw [List.cons_append, heq, List.cons_append], hd, ?_⟩
        intro y hy
        rcases List.mem_cons.mp hy with rfl | hy
        · rw [← Bool.not_eq_true, Move.settles_iff, not_or]
          exact ⟨hx, hmid y List.mem_cons_self⟩
        · exact hearly y hy

/-- A message that was put aside is delivered if a commit follows, and no rollback before it. -/
theorem delivered_of_commit_follows
    (h : ({} : Broker).history run = before ++ e :: (mid ++ c :: behind))
    (he : e.move = .keeps s p) (hc : c.move = .commits s)
    (hmid : ∀ x ∈ mid, x.move ≠ .rollsBack s) :
    ∃ d ∈ ({} : Broker).history run, p ∈ d.delivered := by
  obtain ⟨early, d, late, heq, hd, hearly⟩ := exists_first_commit behind hc hmid
  have hsplit : ({} : Broker).history run = (before ++ e :: early) ++ d :: late := by
    rw [h, heq, List.append_assoc, List.cons_append]
  refine ⟨d, ?_, ?_⟩
  · rw [hsplit]
    exact List.mem_append_right _ List.mem_cons_self
  · have hunsettled : ∀ x ∈ e :: early, x.move.settles s = false := by
      intro x hx
      rcases List.mem_cons.mp hx with rfl | hx
      · simp [he, Move.settles]
      · exact hearly x hx
    rw [delivered_of_commits hsplit hd, outstanding_append hunsettled, List.flatMap_cons, he]
    simp [Move.kept]

/-- A message that was put aside and is delivered, is delivered by a commit of its session, and in
between the session is neither rolled back nor closed. -/
theorem commit_follows_of_delivered (h : ({} : Broker).history run = before ++ e :: behind)
    (he : e.move = .keeps s p) (hc : c ∈ ({} : Broker).history run) (hp : p ∈ c.delivered) :
    ∃ mid rest, behind = mid ++ c :: rest ∧ c.move = .commits s ∧
      ∀ x ∈ mid, x.move ≠ .rollsBack s ∧ x.move ≠ .closes s := by
  have htaken : p ∈ e.taken := by simp [Operated.taken, he, Move.taken]
  obtain ⟨early, late, hsplit⟩ := List.append_of_mem hc
  rw [Operated.delivered_eq] at hp
  cases hmove : c.move with
  | passes q =>
      -- one operation took the message in, and it put the message aside
      have hq : p ∈ c.taken := by simpa [Operated.taken, hmove, Move.taken, Move.delivers] using hp
      obtain ⟨-, rfl, -⟩ := taken_once h hsplit htaken hq
      simp [he] at hmove
  | commits t =>
      have hout : p ∈ outstanding t early := by
        rw [← delivered_of_commits hsplit hmove, Operated.delivered_eq]
        exact hp
      obtain ⟨older, e', recent, rfl, he', hrecent⟩ := exists_of_mem_outstanding hout
      have htaken' : p ∈ e'.taken := by simp [Operated.taken, he', Move.taken]
      rw [List.append_assoc, List.cons_append] at hsplit
      obtain ⟨rfl, rfl, rfl⟩ := taken_once h hsplit htaken htaken'
      obtain ⟨rfl, -⟩ := Move.keeps.inj (he.symm.trans he')
      refine ⟨recent, late, rfl, rfl, ?_⟩
      intro x hx
      constructor
      · intro hrolled
        have hsettles := hrecent x hx
        simp [hrolled, Move.settles] at hsettles
      · intro hcloses
        obtain ⟨r, hr⟩ := Operated.exists_session_of_keeps he
        have hclosed := sessionClosed_between h hr hx hcloses
        exact not_sessionClosed_of_open (Operated.open_of_commits hmove) hclosed
  | nothing | keeps t q | rollsBack t | closes t => simp [hmove, Move.delivers] at hp

/-- A session that was opened as transacted stays so. -/
theorem transacted_of_opens (h : b.history run = before ++ e :: behind) {o : Operated}
    (ho : o ∈ before) (hopens : o.Opens s) : (e.broker.pending s).isSome := by
  obtain ⟨early, late, rfl⟩ := List.append_of_mem ho
  rw [List.append_assoc, List.cons_append] at h
  obtain ⟨-, second, -, -, -, hsecond⟩ := history_split h
  obtain ⟨upto, -, -, -, hupto, -⟩ := history_split hsecond
  obtain ⟨r, hr, hpending⟩ := Operated.pending_of_opens hopens
  obtain ⟨r', hr', hremains⟩ := remains_after o.after upto hr
  rw [hupto] at hr'
  simpa [pending, hr', hremains.pending] using hpending

end Broker

/-- What a history shows of the messages that are sent on a session. -/
structure Visible (s : Handle .session) (history : List Operated) : Prop where
  /-- A message that is sent successfully on a session opened as transacted is put aside there. -/
  kept : ∀ before e behind, history = before ++ e :: behind → (∃ o ∈ before, o.Opens s) →
    ∀ p, e.Sends s p ↔ e.move = .keeps s p
  /-- It is delivered exactly if a commit follows, and no rollback and no closing in between. -/
  delivered : ∀ before e behind p, history = before ++ e :: behind → e.move = .keeps s p →
    ((∃ c ∈ history, p ∈ c.delivered) ↔
      ∃ mid c rest, behind = mid ++ c :: rest ∧ c.move = .commits s ∧
        ∀ x ∈ mid, x.move ≠ .rollsBack s ∧ x.move ≠ .closes s)
  /-- A commit delivers what was put aside since the last commit or rollback, in that order and
  behind everything else. -/
  committed : ∀ before c behind, history = before ++ c :: behind → c.move = .commits s →
    c.delivered = outstanding s before ∧ ∀ name, c.after.waiting name =
      c.broker.waiting name ++ (outstanding s before).filter fun p => p.destination = name
  /-- A commit delivers nothing of another session. -/
  apart : ∀ c ∈ history, c.move = .commits s → ∀ e ∈ history, ∀ t p, e.move = .keeps t p →
    p ∈ c.delivered → t = s
  /-- Nothing is delivered twice. -/
  once : ((history.flatMap Operated.delivered).map Parcel.serial).Nodup
  /-- A commit that fails delivers nothing and keeps everything as it is. -/
  failed : ∀ c ∈ history, c.operation = .call (.commit s) → c.move ≠ .commits s →
    c.delivered = [] ∧ c.after.waiting = c.broker.waiting ∧ c.after.pending = c.broker.pending
  /-- The expiry of a message is counted from when it was sent. -/
  dated : ∀ e ∈ history, ∀ p, e.move = .keeps s p → p.expiresAt =
    if p.message.timeToLive = 0 then none else some (e.now + p.message.timeToLive)

/-- Whatever is done with a broker, a transacted session makes visible what it commits. -/
theorem Broker.commits_make_visible (run : List (Nat × Operation)) (s : Handle .session) :
    Visible s (({} : Broker).history run) := by
  refine ⟨?_, ?_, ?_, ?_, ?_, ?_, ?_⟩
  · rintro before e behind h ⟨o, ho, hopens⟩ p
    refine ⟨fun hsends => ?_, Operated.sends_of_keeps⟩
    exact Operated.keeps_of_sends hsends (Broker.transacted_of_opens h ho hopens)
  · intro before e behind p h he
    constructor
    · rintro ⟨c, hc, hp⟩
      obtain ⟨mid, rest, hbehind, hcommits, hmid⟩ := Broker.commit_follows_of_delivered h he hc hp
      exact ⟨mid, c, rest, hbehind, hcommits, hmid⟩
    · rintro ⟨mid, c, rest, rfl, hcommits, hmid⟩
      exact Broker.delivered_of_commit_follows h he hcommits fun x hx => (hmid x hx).1
  · intro before c behind h hc
    have hdelivered := Broker.delivered_of_commits h hc
    refine ⟨hdelivered, fun name => ?_⟩
    rw [Operated.waiting_of_commits hc, hdelivered]
  · intro c hc hcommits e he t p hkeeps hp
    obtain ⟨before, behind, h⟩ := List.append_of_mem he
    obtain ⟨-, -, -, hcommits', -⟩ := Broker.commit_follows_of_delivered h hkeeps hc hp
    exact Move.commits.inj (hcommits'.symm.trans hcommits)
  · exact (Broker.delivered_once run).1
  · intro c _ hoperation hfailed
    exact Operated.failed_commit hoperation hfailed
  · intro e _ p hkeeps
    have htaken : p ∈ e.taken := by simp [Operated.taken, hkeeps, Move.taken]
    exact Operated.expiresAt_of_taken htaken

/-- A message is sent at 5 and may live for 10. The first commit fails, the second one delivers it,
and it still expires at 15. -/
example :
    let run : List (Nat × Operation) :=
      [(0, .call (.createConnection none)), (1, .call (.createSession ⟨0⟩ true .auto)),
        (2, .call (.createProducer ⟨0⟩ (.queue "orders"))),
        (3, .call (.applySettings ⟨0⟩ { timeToLive := 10 })),
        (5, .call (.send ⟨0⟩ { body := .text "a" })), (6, .failNext .commit),
        (7, .call (.commit ⟨0⟩)), (8, .call (.commit ⟨0⟩))]
    (({} : Broker).history run).flatMap (fun e => e.delivered.map fun p => (e.now, p.expiresAt)) =
      [(8, some 15)] := by
  rfl

end Sluice
