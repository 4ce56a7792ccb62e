import Sluice.Proofs.Broker.History

/-! # Looking at a destination goes unnoticed

Whoever looks at a destination drops what is expired there, so a look does change what is stored.
But nobody can tell: two brokers that differ in nothing but expired messages answer every operation
alike and differ in nothing but expired messages afterwards, and time only adds to what is expired.
All views of a destination at one instant show the same messages, those that are not expired.
-/

namespace Sluice

namespace Broker

/-! ### The messages that can still be seen -/

/-- The messages under a name that are not expired, the oldest first. -/
def live (b : Broker) (now : Nat) (name : String) : List Parcel :=
  (b.waiting name).filter fun p => !p.isExpired now

variable (b : Broker) {now : Nat} {name other : String}

theorem live_congr {b b' : Broker} (h : b'.waiting name = b.waiting name) :
    b'.live now name = b.live now name := by
  rw [live, h, live]

theorem waiting_purge_self (now : Nat) (name : String) :
    (b.purge now name).waiting name = b.live now name := by
  rw [waiting_purge, if_pos rfl, live]

/-- Later there is to be seen what is not expired of what there was to be seen before. -/
theorem live_of_le {later : Nat} (hle : now ≤ later) :
    b.live later name = (b.live now name).filter fun p => !p.isExpired later := by
  rw [live, live, List.filter_filter]
  apply List.filter_congr
  intro p _
  cases hexpired : p.isExpired now with
  | false => simp
  | true => simp [Parcel.isExpired_of_le hle hexpired]

@[simp] theorem live_purge (now : Nat) (name other : String) :
    (b.purge now name).live now other = b.live now other := by
  rw [live, waiting_purge]
  split
  next => rw [List.filter_filter, live]; simp
  next => rfl

theorem live_replaceWaiting {parcels : List Parcel} (h : parcels.Sublist (b.live now name)) :
    (b.replaceWaiting name parcels).live now other =
      if name = other then parcels else b.live now other := by
  rw [live, waiting_replaceWaiting _ _ _ (h.trans List.filter_sublist)]
  split
  next =>
    rw [List.filter_eq_self]
    intro p hp
    exact (List.mem_filter.mp (h.subset hp)).2
  next => rfl

theorem live_deliverAll (parcels : List Parcel) :
    (b.deliverAll parcels).live now name = b.live now name ++
      (parcels.filter fun p => p.destination = name).filter fun p => !p.isExpired now := by
  rw [live, waiting_deliverAll, List.filter_append, live]

/-! ### What can be seen of a destination -/

theorem depth_fst : (b.depth now name).1 = (b.live now name).length := by
  rw [depth, waiting_purge_self]

theorem drain_fst : (b.drain now name).1 = b.live now name := by
  rw [drain, waiting_purge_self]

theorem live_drain : (b.drain now name).2.live now other =
    if name = other then [] else b.live now other := by
  rw [drain, live_replaceWaiting _ (List.nil_sublist _), live_purge]

theorem receive_fst : (b.receive now name).1 = (b.live now name).head? := by
  rw [receive, waiting_purge_self]
  cases b.live now name <;> rfl

theorem live_receive : (b.receive now name).2.live now other =
    if name = other then (b.live now name).tail else b.live now other := by
  rw [receive, waiting_purge_self]
  cases hlive : b.live now name with
  | nil =>
      rw [live_purge]
      split
      next heq => rw [← heq, hlive]; rfl
      next => rfl
  | cons p rest =>
      dsimp only
      rw [live_replaceWaiting, live_purge]
      · rfl
      · rw [live_purge, hlive]
        exact List.sublist_cons_self p rest

theorem browse_of_open {w : Handle .browser} {r : BrowserRecord} (hopen : b.openBrowser? w = some r)
    (harmed : .browse ∉ b.armed) :
    b.browse now w = (.ok (b.live now r.destination).length, b.purge now r.destination) := by
  rw [browse, hopen]
  dsimp only
  rw [attempt, if_neg harmed, depth_fst]
  rfl

theorem live_clear : (b.clear name).live now other =
    if name = other then [] else b.live now other :=
  live_replaceWaiting b (List.nil_sublist _)

theorem live_declare (d : Destination) : (b.declare d).live now name = b.live now name :=
  live_congr (waiting_declare b d name)

theorem live_failNext (point : FaultPoint) :
    (b.failNext point).live now name = b.live now name := by
  apply live_congr
  unfold failNext
  split <;> rfl

/-- What is injected stands behind what there was to be seen. -/
theorem live_inject (d : Destination) (m : Message) : (b.inject now d m).live now name =
    b.live now name ++ ([b.pack now d.name m].filter fun p => p.destination = name).filter
      fun p => !p.isExpired now :=
  live_deliverAll b [b.pack now d.name m]

/-- So does what a call delivers. -/
theorem live_perform {c : Call} (hbrowse : ∀ w, c ≠ .browse w) :
    (b.perform now c).2.live now name = b.live now name ++
      ((b.delivered now (.call c)).filter fun p => p.destination = name).filter
        fun p => !p.isExpired now := by
  rcases b.mailboxes_perform now c with hboxes | ⟨w, r, rfl, -⟩
  · rw [live_congr (waiting_congr hboxes name), live_deliverAll]
  · exact absurd rfl (hbrowse w)

/-- The answers of so many receives from a name, one after the other at one instant. -/
def receives (b : Broker) (now : Nat) (name : String) : Nat → List (Option Parcel)
  | 0 => []
  | count + 1 => (b.receive now name).1 :: (b.receive now name).2.receives now name count

/-- Receives return the messages that can be seen, one after the other, before one returns none. -/
theorem receives_before_none (count : Nat) :
    (b.receives now name count).takeWhile Option.isSome =
      ((b.live now name).take count).map some := by
  induction count generalizing b with
  | zero => rfl
  | succ count ih =>
      rw [receives, receive_fst]
      cases hlive : b.live now name with
      | nil => rfl
      | cons p rest =>
          have hrest := ih (b.receive now name).2
          rw [live_receive, if_pos rfl, hlive] at hrest
          rw [List.head?_cons, List.takeWhile_cons_of_pos rfl, hrest]
          rfl

/-! ### What does not depend on the mailboxes -/

/-- A broker apart from its mailboxes. -/
def bare (b : Broker) : Broker := { b with mailboxes := Keyed.empty }

/-- Two outcomes are the same apart from mailboxes. -/
def Matches {α : Type} (outcome outcome' : α × Broker) : Prop :=
  outcome'.1 = outcome.1 ∧ outcome'.2.bare = outcome.2.bare

variable {α : Type}

theorem bare_deliverAll (parcels : List Parcel) : (b.deliverAll parcels).bare = b.bare := by
  rw [deliverAll_mailboxes]
  rfl

@[simp] theorem connectionOpen_bare (c : Handle .connection) :
    b.bare.connectionOpen c = b.connectionOpen c := rfl

@[simp] theorem pending_bare (s : Handle .session) : b.bare.pending s = b.pending s := rfl

@[simp] theorem openProducer?_bare (p : Handle .producer) :
    b.bare.openProducer? p = b.openProducer? p := rfl

@[simp] theorem openBrowser?_bare (w : Handle .browser) :
    b.bare.openBrowser? w = b.openBrowser? w := rfl

/-- Whoever asks both brokers the same question goes on in the same way. -/
theorem Matches.ite {outcome outcome' other other' : α × Broker} (asked : Bool)
    (h : Matches outcome outcome') (hother : Matches other other') :
    Matches (if asked then outcome else other) (if asked then outcome' else other') := by
  cases asked
  · exact hother
  · exact h

theorem attempt_matches {b b' : Broker} (hbare : b'.bare = b.bare) (point : FaultPoint)
    {act : Broker → Except BrokerError α × Broker} (hact : Matches (act b) (act b')) :
    Matches (b.attempt point act) (b'.attempt point act) := by
  have harmed : b'.armed = b.armed := (congrArg Broker.armed hbare :)
  unfold attempt
  rw [harmed]
  split
  next => exact ⟨rfl, (congrArg (disarm · point) hbare :)⟩
  next => exact hact

theorem attempt_bare (point : FaultPoint) {act : Broker → Except BrokerError α × Broker}
    (hact : Matches (act b) (act b.bare)) :
    Matches (b.attempt point act) (b.bare.attempt point act) := by
  apply attempt_matches _ point hact
  rfl

theorem closing_bare (point : FaultPoint) {close : Broker → Broker}
    (hclose : ∀ b : Broker, (close b.bare).bare = (close b).bare) :
    Matches (b.closing point close) (b.bare.closing point close) := by
  have harmed : b.bare.armed = b.armed := rfl
  unfold closing
  rw [harmed]
  split
  next => exact ⟨rfl, hclose (b.disarm point)⟩
  next => exact ⟨rfl, hclose b⟩

/-- What a call comes to does not depend on the mailboxes, unless it is about a browser. -/
theorem perform_bare (now : Nat) {c : Call} (hcreate : ∀ s d, c ≠ .createBrowser s d)
    (hbrowse : ∀ w, c ≠ .browse w) : Matches (b.perform now c) (b.bare.perform now c) := by
  cases c with
  | createConnection credentials =>
      apply attempt_bare
      have hrequired : b.bare.required = b.required := rfl
      rw [hrequired]
      cases refusal b.required credentials <;> exact ⟨rfl, rfl⟩
  | startConnection c | stopConnection c =>
      apply Matches.ite
      · apply attempt_bare
        exact ⟨rfl, rfl⟩
      · exact ⟨rfl, rfl⟩
  | closeConnection c =>
      apply closing_bare
      intro b
      rw [connectionOpen_bare]
      split <;> rfl
  | createSession c transacted mode =>
      apply Matches.ite
      · apply attempt_bare
        exact ⟨rfl, rfl⟩
      · exact ⟨rfl, rfl⟩
  | commit s =>
      apply Matches.ite
      · rw [pending_bare]
        cases b.pending s with
        | none => exact ⟨rfl, rfl⟩
        | some parcels =>
            apply attempt_bare
            refine ⟨rfl, ?_⟩
            rw [bare_deliverAll, bare_deliverAll]
            rfl
      · exact ⟨rfl, rfl⟩
  | rollback s =>
      apply Matches.ite
      · rw [pending_bare]
        cases b.pending s <;> exact ⟨rfl, rfl⟩
      · exact ⟨rfl, rfl⟩
  | closeSession s =>
      apply closing_bare
      intro b
      have hopen : ∀ f, (b.bare.modifySession s f).sessionOpen s =
          (b.modifySession s f).sessionOpen s := fun _ => rfl
      dsimp only
      rw [hopen]
      split <;> rfl
  | createProducer s d =>
      apply Matches.ite
      · apply attempt_bare
        exact ⟨rfl, rfl⟩
      · exact ⟨rfl, rfl⟩
  | applySettings p settings =>
      rw [perform, perform, applySettings, applySettings, openProducer?_bare]
      cases b.openProducer? p with
      | none => exact ⟨rfl, rfl⟩
      | some r =>
          apply attempt_bare
          exact ⟨rfl, rfl⟩
  | send p m =>
      rw [perform, perform, send, send, openProducer?_bare]
      cases b.openProducer? p with
      | none => exact ⟨rfl, rfl⟩
      | some r =>
          apply attempt_bare
          have hnext (serial : Nat) :
              { b with nextSerial := serial }.pending r.session = b.pending r.session := rfl
          have hnext' (serial : Nat) :
              { b.bare with nextSerial := serial }.pending r.session = b.pending r.session := rfl
          dsimp only
          rw [hnext, hnext']
          cases b.pending r.session <;> exact ⟨rfl, rfl⟩
  | closeProducer p =>
      apply closing_bare
      intro b
      rw [openProducer?_bare]
      split <;> rfl
  | createBrowser s d => exact absurd rfl (hcreate s d)
  | browse w => exact absurd rfl (hbrowse w)
  | closeBrowser w =>
      rw [perform, perform, closeBrowser, closeBrowser, openBrowser?_bare]
      cases b.openBrowser? w <;> exact ⟨rfl, rfl⟩

theorem bare_declare (d : Destination) : (b.declare d).bare = b.bare := by
  unfold declare
  split <;> rfl

theorem bare_failNext (point : FaultPoint) : (b.failNext point).bare = b.bare.failNext point := by
  have harmed : b.bare.armed = b.armed := rfl
  rw [failNext, failNext, harmed]
  split <;> rfl

theorem bare_receive (now : Nat) (name : String) : (b.receive now name).2.bare = b.bare := by
  unfold receive
  dsimp only
  split <;> rfl

/-! ### Brokers that nobody can tell apart -/

/-- Two brokers differ in nothing but messages that are expired. -/
structure Alike (now : Nat) (b b' : Broker) : Prop where
  bare : b'.bare = b.bare
  kind? : ∀ name, b'.kind? name = b.kind? name
  live : ∀ name, b'.live now name = b.live now name

namespace Alike

variable {b b' : Broker}

theorem refl (b : Broker) : Alike now b b := ⟨rfl, fun _ => rfl, fun _ => rfl⟩

/-- Time adds to what is expired, for both alike. -/
theorem later (h : Alike now b b') {later : Nat} (hle : now ≤ later) : Alike later b b' := by
  refine ⟨h.bare, h.kind?, fun name => ?_⟩
  rw [live_of_le b' hle, h.live, live_of_le b hle]

/-- One broker is the other one with other mailboxes. -/
theorem rehoused (h : Alike now b b') : b' = { b with mailboxes := b'.mailboxes } := by
  have hbare := h.bare
  cases b
  cases b'
  simp only [Broker.bare, Broker.mk.injEq] at hbare ⊢
  simp [hbare]

theorem openHandles (h : Alike now b b') : b'.openHandles = b.openHandles := by
  rw [h.rehoused]

/-- A look at one of them is not noticed. -/
theorem purge (h : Alike now b b') (name : String) : Alike now b (b'.purge now name) := by
  refine ⟨h.bare, fun other => ?_, fun other => ?_⟩
  · rw [kind?_purge, h.kind?]
  · rw [live_purge, h.live]

/-- A look at both leaves them alike. -/
theorem purge_both (h : Alike now b b') (name : String) :
    Alike now (b.purge now name) (b'.purge now name) := by
  refine ⟨h.bare, fun other => ?_, fun other => ?_⟩
  · rw [kind?_purge, kind?_purge, h.kind?]
  · rw [live_purge, live_purge, h.live]

theorem armed (h : Alike now b b') : b'.armed = b.armed := by
  rw [h.rehoused]

theorem disarm (h : Alike now b b') (point : FaultPoint) :
    Alike now (b.disarm point) (b'.disarm point) :=
  ⟨(congrArg (Broker.disarm · point) h.bare :), h.kind?, h.live⟩

theorem kindOf (h : Alike now b b') (d : Destination) : b'.kindOf d = b.kindOf d := by
  rw [kindOf_eq, kindOf_eq, h.kind?]

/-- A call through a handle that is about no depth has the same outcome. -/
theorem perform (h : Alike now b b') (c : Call) (hbrowse : ∀ w, c ≠ .browse w) :
    Matches (b.perform now c) (b'.perform now c) := by
  by_cases hcreate : ∃ s d, c = .createBrowser s d
  · obtain ⟨s, d, rfl⟩ := hcreate
    obtain ⟨boxes, rfl⟩ : ∃ boxes, b' = { b with mailboxes := boxes } := ⟨_, h.rehoused⟩
    apply Matches.ite
    · apply attempt_matches h.bare
      simp only [h.kindOf]
      cases b.kindOf d <;> exact ⟨rfl, rfl⟩
    · exact ⟨rfl, rfl⟩
  · have hb := perform_bare b now (fun s d hc => hcreate ⟨s, d, hc⟩) hbrowse
    have hb' := perform_bare b' now (fun s d hc => hcreate ⟨s, d, hc⟩) hbrowse
    rw [h.bare] at hb'
    exact ⟨hb'.1.symm.trans hb.1, hb'.2.symm.trans hb.2⟩

theorem delivered (h : Alike now b b') (o : Operation) :
    b'.delivered now o = b.delivered now o := by
  have hproducer : b'.openProducer? = b.openProducer? := by rw [h.rehoused]; rfl
  have hpending : b'.pending = b.pending := by rw [h.rehoused]; rfl
  have hpack : b'.pack = b.pack := by rw [h.rehoused]; rfl
  cases o with
  | inject d m => rw [Broker.delivered, hpack, Broker.delivered]
  | call c =>
      cases c with
      | send p m =>
          have hreply : (b'.send now p m).1 = (b.send now p m).1 :=
            (h.perform (.send p m) (by simp)).1
          rw [Broker.delivered, hreply, hproducer, hpending, hpack, Broker.delivered]
      | commit s =>
          have hreply : (b'.commit s).1 = (b.commit s).1 := (h.perform (.commit s) (by simp)).1
          rw [Broker.delivered, hreply, hpending, Broker.delivered]
      | _ => rfl
  | _ => rfl

/-- A look through a browser shows the same on both. -/
theorem browse (h : Alike now b b') (w : Handle .browser) :
    (b'.browse now w).1 = (b.browse now w).1 ∧
      Alike now (b.browse now w).2 (b'.browse now w).2 := by
  have hsame : b'.openBrowser? w = b.openBrowser? w := by rw [h.rehoused]; rfl
  cases hopen : b.openBrowser? w with
  | none =>
      rw [Broker.browse, Broker.browse, hsame, hopen]
      exact ⟨rfl, h⟩
  | some r =>
      have hopen' : b'.openBrowser? w = some r := hsame.trans hopen
      by_cases harmed : .browse ∈ b.armed
      · have harmed' : .browse ∈ b'.armed := h.armed ▸ harmed
        rw [Broker.browse, Broker.browse, hopen, hopen']
        dsimp only
        rw [attempt, attempt, if_pos harmed, if_pos harmed']
        exact ⟨rfl, h.disarm .browse⟩
      · have harmed' : .browse ∉ b'.armed := h.armed ▸ harmed
        rw [browse_of_open b hopen harmed, browse_of_open b' hopen' harmed', h.live]
        exact ⟨rfl, h.purge_both r.destination⟩

/-- Whatever is done to both, nobody can tell them apart, neither now nor later. -/
theorem operate (h : Alike now b b') (o : Operation) :
    (b'.operate now o).1 = (b.operate now o).1 ∧
      Alike now (b.operate now o).2 (b'.operate now o).2 := by
  have hkind : ∀ name, (b'.operate now o).2.kind? name = (b.operate now o).2.kind? name := by
    intro name
    rw [kind?_operate, kind?_operate, h.kind?]
    cases o <;> simp only [h.delivered]
  cases o with
  | declare d =>
      refine ⟨rfl, ?_, hkind, fun name => ?_⟩
      · exact (bare_declare b' d).trans (h.bare.trans (bare_declare b d).symm)
      · exact (live_declare b' d).trans ((h.live name).trans (live_declare b d).symm)
  | inject d m =>
      have hpack : b'.pack = b.pack := by rw [h.rehoused]; rfl
      have hbare : (b'.inject now d m).bare = (b.inject now d m).bare :=
        (congrArg (fun b => { b with nextSerial := b.nextSerial + 1 }) h.bare :)
      refine ⟨rfl, hbare, hkind, fun name => ?_⟩
      refine (live_inject b' d m).trans (Eq.trans ?_ (live_inject b d m).symm)
      rw [h.live, hpack]
  | depth name =>
      refine ⟨?_, h.purge_both name⟩
      exact (depth_fst b').trans ((congrArg List.length (h.live name)).trans (depth_fst b).symm)
  | receive name =>
      refine ⟨?_, ?_, hkind, fun other => ?_⟩
      · exact (receive_fst b').trans
          ((congrArg List.head? (h.live name)).trans (receive_fst b).symm)
      · exact (bare_receive b' now name).trans (h.bare.trans (bare_receive b now name).symm)
      · refine (live_receive b').trans (Eq.trans ?_ (live_receive b).symm)
        rw [h.live, h.live]
  | drain name =>
      refine ⟨?_, h.bare, hkind, fun other => ?_⟩
      · exact (drain_fst b').trans ((h.live name).trans (drain_fst b).symm)
      · refine (live_drain b').trans (Eq.trans ?_ (live_drain b).symm)
        rw [h.live]
  | clear name =>
      refine ⟨rfl, h.bare, hkind, fun other => ?_⟩
      refine (live_clear b').trans (Eq.trans ?_ (live_clear b).symm)
      rw [h.live]
  | requireCredentials c =>
      exact ⟨rfl, (congrArg (requireCredentials · c) h.bare :), hkind, h.live⟩
  | failNext point =>
      refine ⟨rfl, ?_, hkind, fun name => ?_⟩
      · exact (bare_failNext b' point).trans
          ((congrArg (failNext · point) h.bare).trans (bare_failNext b point).symm)
      · exact (live_failNext b' point).trans ((h.live name).trans (live_failNext b point).symm)
  | call c =>
      by_cases hlook : ∃ w, c = .browse w
      · obtain ⟨w, rfl⟩ := hlook
        exact h.browse w
      · have hbrowse : ∀ w, c ≠ .browse w := fun w hc => hlook ⟨w, hc⟩
        obtain ⟨hreply, hbare⟩ := h.perform c hbrowse
        refine ⟨hreply, hbare, hkind, fun name => ?_⟩
        refine (live_perform b' hbrowse).trans (Eq.trans ?_ (live_perform b hbrowse).symm)
        rw [h.live, h.delivered]

end Alike

/-! ### Looks in between -/

/-- The operation only looks at a depth: directly, or through an open browser while no fault is
armed for that. -/
def Inspects (b : Broker) : Operation → Prop
  | .depth _ => True
  | .call (.browse w) => (b.openBrowser? w).isSome ∧ .browse ∉ b.armed
  | _ => False

theorem Alike.look {b b' : Broker} {o : Operation} (h : Alike now b b') (ho : b'.Inspects o) :
    Alike now b (b'.operate now o).2 := by
  cases o with
  | depth name => exact h.purge name
  | call c =>
      cases c with
      | browse w =>
          obtain ⟨hopen, harmed⟩ := ho
          obtain ⟨r, hr⟩ := Option.isSome_iff_exists.mp hopen
          have hbrowse : (b'.operate now (.call (.browse w))).2 = b'.purge now r.destination :=
            congrArg Prod.snd (browse_of_open b' hr harmed)
          rw [hbrowse]
          exact h.purge r.destination
      | _ => exact ho.elim
  | _ => exact ho.elim

end Broker

/-- What is seen of an operation: its answer, and how many handles are open after it. -/
structure Shown where
  operation : Operation
  answer : operation.Answer
  openHandles : OpenHandles

def Operated.shown (e : Operated) : Shown where
  operation := e.operation
  answer := (e.broker.operate e.now e.operation).1
  openHandles := e.after.openHandles

namespace Broker

/-- A step of a run in which looks are taken in between. -/
inductive Watched where
  | own (o : Operation)
  | look (o : Operation)

/-- The operations of the run itself. -/
def ownRun (steps : List (Nat × Watched)) : List (Nat × Operation) :=
  steps.filterMap fun
    | (now, .own o) => some (now, o)
    | (_, .look _) => none

/-- What is seen of the operations of the run itself when the looks take place as well. -/
def shownAmid (b : Broker) : List (Nat × Watched) → List Shown
  | [] => []
  | (now, .own o) :: rest => Operated.shown ⟨b, now, o⟩ :: (b.operate now o).2.shownAmid rest
  | (now, .look o) :: rest => (b.operate now o).2.shownAmid rest

/-- Whatever is done in between only looks at a depth. -/
def OnlyLooks (b : Broker) : List (Nat × Watched) → Prop
  | [] => True
  | (now, .own o) :: rest => (b.operate now o).2.OnlyLooks rest
  | (now, .look o) :: rest => b.Inspects o ∧ (b.operate now o).2.OnlyLooks rest

/-- As long as the clock does not go back, the operations of the run itself show what they show
without the looks, on any broker that cannot be told apart. -/
theorem Alike.shownAmid {now : Nat} {b b' : Broker} {steps : List (Nat × Watched)}
    (h : Alike now b b') (hstart : ∀ step ∈ steps, now ≤ step.1)
    (hclock : steps.Pairwise fun s t => s.1 ≤ t.1) (hlooks : b'.OnlyLooks steps) :
    b'.shownAmid steps = (b.history (ownRun steps)).map Operated.shown := by
  induction steps generalizing now b b' with
  | nil => rfl
  | cons step rest ih =>
      obtain ⟨time, watched⟩ := step
      obtain ⟨hnext, hrest⟩ := List.pairwise_cons.mp hclock
      have halike : Alike time b b' := h.later (hstart _ List.mem_cons_self)
      cases watched with
      | own o =>
          obtain ⟨hanswer, hafter⟩ := halike.operate o
          have hshown : Operated.shown ⟨b', time, o⟩ = Operated.shown ⟨b, time, o⟩ := by
            rw [Operated.shown, Operated.shown, Operated.after, Operated.after, hanswer,
              hafter.openHandles]
          have hlater := ih hafter hnext hrest hlooks
          rw [Broker.shownAmid, hshown, hlater]
          rfl
      | look o =>
          obtain ⟨hinspects, hlooks⟩ := hlooks
          exact ih (halike.look hinspects) hnext hrest hlooks

/-- Looks in between change nothing that is seen of a run, as long as the clock does not go back.
And at one instant all views of a destination agree: its depth, the depth that an open browser
shows, what a drain returns, and what receives return before one of them returns none. -/
theorem inspection_unnoticed (b : Broker) {steps : List (Nat × Watched)}
    (hclock : steps.Pairwise fun s t => s.1 ≤ t.1) (hlooks : b.OnlyLooks steps) (now : Nat)
    (name : String) :
    b.shownAmid steps = (b.history (ownRun steps)).map Operated.shown ∧
      (b.depth now name).1 = (b.drain now name).1.length ∧
      (∀ w r, b.openBrowser? w = some r → r.destination = name → .browse ∉ b.armed →
        (b.browse now w).1 = .ok (b.drain now name).1.length) ∧
      ∀ count, (b.drain now name).1.length < count →
        (b.receives now name count).takeWhile Option.isSome = (b.drain now name).1.map some := by
  have hdrain : (b.drain now name).1 = b.live now name := b.drain_fst
  refine ⟨?_, ?_, ?_, ?_⟩
  · exact (Alike.refl b).shownAmid (fun _ _ => Nat.zero_le _) hclock hlooks
  · rw [hdrain, depth_fst]
  · intro w r hopen hdestination harmed
    rw [browse_of_open b hopen harmed, hdestination, hdrain]
  · intro count hcount
    rw [hdrain] at hcount ⊢
    rw [receives_before_none, List.take_of_length_le (Nat.le_of_lt hcount)]

/-- Two looks, one of which drops a message that has just expired. -/
theorem inspection_unnoticed_expired :
    let b := ({} : Broker).after [
      (0, .call (.createConnection none)), (0, .call (.createSession ⟨0⟩ false .auto)),
      (0, .call (.createBrowser ⟨0⟩ (.queue "orders"))),
      (0, .inject (.queue "orders") { body := .text "a", timeToLive := 5 }),
      (0, .inject (.queue "orders") { body := .text "b", timeToLive := 9 })]
    let steps : List (Nat × Watched) := [
      (5, .look (.depth "orders")), (6, .own (.receive "orders")),
      (9, .look (.call (.browse ⟨0⟩))), (9, .own (.drain "orders"))]
    (b.operate 5 (.depth "orders")).2.waiting "orders" ≠ b.waiting "orders" ∧
      b.OnlyLooks steps ∧
      b.shownAmid steps = (b.history [(6, .receive "orders"), (9, .drain "orders")]).map
        Operated.shown ∧
      (b.drain 5 "orders").1.map Parcel.serial = [1] ∧ (b.browse 5 ⟨0⟩).1 = .ok 1 ∧
      ((b.receives 5 "orders" 3).takeWhile Option.isSome).length = 1 := by
  intro b steps
  have hclock : steps.Pairwise fun s t => s.1 ≤ t.1 := by decide
  have hlooks : b.OnlyLooks steps := ⟨trivial, ⟨rfl, by decide⟩, trivial⟩
  obtain ⟨hshown, -, hbrowse, hreceives⟩ := inspection_unnoticed b hclock hlooks 5 "orders"
  refine ⟨by decide, hlooks, hshown, by decide, ?_, ?_⟩
  · exact hbrowse ⟨0⟩ _ rfl rfl (by decide)
  · rw [hreceives 3 (by decide)]
    decide

end Broker

end Sluice
