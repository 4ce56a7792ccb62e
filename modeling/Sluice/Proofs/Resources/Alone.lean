import Sluice.Proofs.Resources.Order

/-! # A manager alone with a broker

One manager is started and closed any number of times, each time with any configuration and
directory, and before each call any faults are armed and any credentials are required; nobody else
uses the broker. What the manager secures among others it also does alone, and then the number of
open handles is known: whatever was opened, the manager opened.
-/

namespace Sluice

/-- A directory with a state of its own, which may answer differently each time. -/
abbrev Directory (σ : Type) := String → Properties → StateM σ (Except NamingError Entry)

/-- All that there is when a manager is alone. -/
structure Alone (σ : Type) extends Ground where
  now : Nat := 0
  signal : Signal := {}
  directory : σ

namespace Alone

variable {σ : Type}

/-- The answer to a request when nobody else does anything. -/
def answer (directory : Directory σ) : (r : Request) → StateM (Alone σ) r.Answer
  | .lookup name properties => fun s =>
      let (found, rest) := directory name properties s.directory
      (found, { s with directory := rest })
  | .call c => fun s =>
      let (reply, broker) := s.broker.perform s.now c
      (reply, { s with broker })
  | .clock => fun s => (s.now, s)
  | .isShutDown => fun s => (s.signal.isShutDown, s)
  | .shutDown => fun s => ((), { s with signal := { s.signal with isShutDown := true } })
  | .interrupt => fun s =>
      ((), { s with signal := { s.signal with rounds := s.signal.rounds + 1 } })
  | .enlist => fun s => (s.signal.rounds, s)
  | .rest millis _ => fun s => (false, { s with now := s.now + millis })
  | .pause => fun s => ((), s)
  | .lock => fun s => ((), s)
  | .unlock => fun s => ((), s)
  | .manager => fun s => (s.manager, s)
  | .keep m => fun s => ((), { s with manager := m })
  | .delayOf _ => fun s => (none, s)
  | .takeFailure _ => fun s => (false, s)
  | .record _ => fun s => ((), s)
  | .shutDownAsPlanned => fun s => ((), s)

/-- What is asked of a manager. -/
inductive Command where
  | start (config : Config) (files : Files) (defaults : Properties)
  | close

/-- What a command comes to. -/
inductive Result where
  | started (r : Except ConfigurationError Unit)
  | closed
deriving DecidableEq

/-- The script of a command. -/
def Command.work : Command → Work Result
  | .start config files defaults => do return .started (← Manager.start config files defaults)
  | .close => do Manager.close; return .closed

/-- A command, and what is arranged before it. -/
structure Turn (σ : Type) where
  command : Command
  /-- The faults that are armed. -/
  armed : List FaultPoint
  /-- The credentials that are required from now on, if they are to change. -/
  required : Option Credentials
  directory : Directory σ

/-- What the owner of a broker does before a command. -/
def Turn.arrangement (t : Turn σ) : List Operation :=
  t.armed.map .failNext ++ (t.required.map .requireCredentials).toList

/-- The broker after an arrangement. -/
def arrange (s : Alone σ) (operations : List Operation) : Alone σ :=
  { s with broker := s.broker.after (operations.map (s.now, ·)) }

/-- A command is arranged for and carried out. -/
def turn (s : Alone σ) (t : Turn σ) : Result × Alone σ :=
  t.command.work.answeredIn (answer t.directory) (s.arrange t.arrangement)

/-- Commands are carried out one after the other. -/
def run (s : Alone σ) : List (Turn σ) → List Result × Alone σ
  | [] => ([], s)
  | t :: rest =>
      let (result, s) := s.turn t
      let (results, s) := s.run rest
      (result :: results, s)

/-- The moment at which somebody stands who is alone, with the handles and the past that go with
it. -/
def moment (s : Alone σ) (ours : List AnyHandle) (past : List Event) : Moment where
  toGround := s.toGround
  now := s.now
  signal := s.signal
  ours := ours
  past := past

/-- All handles that are open were opened by the one task that there is. -/
def Whole (m : Moment) : Prop :=
  ∀ kind, (m.broker.openHandles.count kind : Int) = gained kind (m.own 0)

theorem Whole.answered {m met : Moment} (hwhole : Whole m) (hown : met.own 0 = m.own 0)
    (r : Request) (a : r.Answer) : Whole (met.note (.answered 0 r a m met)) := by
  intro kind
  have hm := hwhole kind
  change (met.broker.openHandles.count kind : Int) = _
  rw [Moment.own_note, Event.answered, if_pos rfl, gained_append, hown]
  simp only [gained, List.map_cons, List.map_nil, List.sum_cons, List.sum_nil] at hm ⊢
  omega

theorem Whole.drift {m m' : Moment} (hwhole : Whole m) (hdrift : Drift 0 m m')
    (hkeeps : m.broker.Keeps m.ours) (hsame : m'.broker.openHandles = m.broker.openHandles) :
    Whole m' := by
  intro kind
  rw [hsame, (hdrift.frame hkeeps).own]
  exact hwhole kind

/-- An answer that somebody gets who is alone is one that could be met among others. -/
theorem answered (directory : Directory σ) (s : Alone σ) (ours : List AnyHandle)
    (past : List Event) (hwhole : Whole (s.moment ours past)) {r : Request}
    (hr : r.isInside = true) :
    ∃ m ours' past', Drift 0 (s.moment ours past) m ∧
      Answered 0 m r (answer directory r s).1 ((answer directory r s).2.moment ours' past') ∧
      Whole ((answer directory r s).2.moment ours' past') := by
  have hmet : ∀ (a : r.Answer) (s' : Alone σ) (ours' : List AnyHandle),
      Met (s.moment ours past) r a (s'.moment ours' past) →
      answer directory r s = (a, s') →
      ∃ m ours' past', Drift 0 (s.moment ours past) m ∧
        Answered 0 m r (answer directory r s).1 ((answer directory r s).2.moment ours' past') ∧
        Whole ((answer directory r s).2.moment ours' past') := by
    intro a s' ours' hmet heq
    rw [heq]
    refine ⟨s.moment ours past, ours', _, .refl, ⟨_, hmet, rfl⟩, ?_⟩
    exact @Whole.answered _ (s'.moment ours' past) hwhole rfl r a
  cases r with
  | lookup name properties =>
      exact hmet _ { s with directory := (directory name properties s.directory).2 } ours
        (.lookup name properties _) rfl
  | call c =>
      exact hmet _ _ (ours ++ c.opened (s.broker.perform s.now c).1)
        (.call (m := s.moment ours past) c) rfl
  | clock => exact hmet _ _ ours .clock rfl
  | isShutDown => exact hmet _ _ ours .isShutDown rfl
  | enlist => exact hmet _ _ ours .enlist rfl
  | rest millis ticket =>
      -- whoever is alone rests to the end, which is a rest that others let pass
      have hshift : Shift 0 (s.moment ours past)
          (({ s with now := s.now + millis } : Alone σ).moment ours (past ++ [])) :=
        .beside (s.now + millis) s.signal [] (Nat.le_add_right _ _) (.refl _) (by simp)
      rw [List.append_nil] at hshift
      refine ⟨_, ours, _, .single hshift, ⟨_, .rest millis ticket false (by simp), rfl⟩, ?_⟩
      exact Whole.answered (m := ({ s with now := s.now + millis } : Alone σ).moment ours past)
        hwhole rfl (.rest millis ticket) false
  | manager => exact hmet _ _ ours .manager rfl
  | keep x => exact hmet _ _ ours (.keep x) rfl
  | _ => simp [Request.isInside] at hr

/-- What is secured among others is secured alone. -/
theorem of_secures {α : Type} {T : Terms} {Q : α → Moment → Prop} (directory : Directory σ)
    {w : Work α} {s : Alone σ} {ours : List AnyHandle} {past : List Event}
    (h : T.Secures 0 Q w (s.moment ours past)) (hwhole : Whole (s.moment ours past)) :
    ∃ ours' past', Whole ((w.answeredIn (answer directory) s).2.moment ours' past') ∧
      Q (w.answeredIn (answer directory) s).1
        ((w.answeredIn (answer directory) s).2.moment ours' past') := by
  induction w generalizing s ours past with
  | done x => exact ⟨ours, past, hwhole, (h _ .refl).2⟩
  | ask r next ih =>
      obtain ⟨-, hinside, -, -⟩ := h _ .refl
      obtain ⟨m, ours', past', hdrift, hanswered, hwhole'⟩ :=
        answered directory s ours past hwhole hinside
      obtain ⟨-, -, -, hnext⟩ := h m hdrift
      exact ih (answer directory r s).1 (hnext _ _ hanswered) hwhole'

/-- What somebody has who is alone with a broker of which nobody has handles yet. -/
def fresh (mailboxes : Keyed Mailbox) (directory : σ) : Alone σ where
  broker := { mailboxes }
  directory := directory

/-- The manager is in order, and what it holds is all that is open. -/
def Balanced (s : Alone σ) : Prop :=
  ∃ ours past, Whole (s.moment ours past) ∧ InOrder (fun _ => True) (s.moment ours past) ∧
    ∀ kind, gained kind ((s.moment ours past).own 0) =
      if s.manager.state = .ready then oneOfEach kind else 0

theorem balanced_fresh (mailboxes : Keyed Mailbox) (directory : σ) :
    (fresh mailboxes directory).Balanced := by
  refine ⟨[], [], ?_, ⟨?_, .idle .uninitialized (by simp)⟩, fun kind => rfl⟩
  · intro kind
    cases kind <;> rfl
  · exact Broker.keeps_new.congr ⟨rfl, rfl, rfl, rfl, rfl⟩

theorem Balanced.openHandles {s : Alone σ} (h : s.Balanced) :
    s.broker.openHandles =
      if s.manager.state = .ready then { connections := 1, sessions := 1, producers := 1 }
      else {} := by
  obtain ⟨ours, past, hwhole, -, hgained⟩ := h
  have hcount : ∀ kind, (s.broker.openHandles.count kind : Int) =
      if s.manager.state = .ready then oneOfEach kind else 0 :=
    fun kind => (hwhole kind).trans (hgained kind)
  have hconnections := hcount .connection
  have hsessions := hcount .session
  have hproducers := hcount .producer
  have hbrowsers := hcount .browser
  cases hopen : s.broker.openHandles
  rw [hopen] at hconnections hsessions hproducers hbrowsers
  simp only [OpenHandles.count, oneOfEach, oneOf] at hconnections hsessions hproducers hbrowsers
  split
  next hready =>
    simp only [hready, if_true] at hconnections hsessions hproducers hbrowsers
    simp only [OpenHandles.mk.injEq]
    simp at hconnections hsessions hproducers hbrowsers
    omega
  next hready =>
    simp only [hready, if_false] at hconnections hsessions hproducers hbrowsers
    simp only [OpenHandles.mk.injEq]
    omega

theorem Balanced.resources {s : Alone σ} (h : s.Balanced) :
    s.manager.resources.isSome ↔ s.manager.state = .ready := by
  obtain ⟨ours, past, -, horder, -⟩ := h
  have hstands := horder.stands
  change s.manager.Stands _ _ _ at hstands
  generalize s.manager = x at hstands
  cases hstands with
  | idle state h => rcases h with rfl | rfl | rfl <;> simp [Manager.resources]
  | ready => simp [Manager.resources]

theorem Balanced.operate {s : Alone σ} (h : s.Balanced) (o : Operation) (ho : ∀ c, o ≠ .call c) :
    ({ s with broker := (s.broker.operate s.now o).2 } : Alone σ).Balanced := by
  obtain ⟨ours, past, hwhole, horder, hgained⟩ := h
  have huses : ∀ k ∈ o.uses, k ∉ ours := by
    cases o with
    | call c => exact absurd rfl (ho c)
    | _ => simp [Operation.uses]
  have hshift := Shift.operated (i := 0) (m := s.moment ours past) o huses
  have hsame := s.broker.sameHandles_operate s.now o ho
  refine ⟨ours, _, ?_, stable_inOrder _ 0 _ _ hshift horder, ?_⟩
  · exact hwhole.drift (.single hshift) horder.keeps hsame.openHandles
  · intro kind
    refine Eq.trans ?_ (hgained kind)
    exact congrArg (gained kind) (hshift.frame horder.keeps).own

theorem Balanced.arrange {s : Alone σ} (h : s.Balanced) (operations : List Operation)
    (ho : ∀ o ∈ operations, ∀ c, o ≠ .call c) : (s.arrange operations).Balanced := by
  induction operations generalizing s with
  | nil => exact h
  | cons o rest ih =>
      have hfirst := h.operate o (ho o List.mem_cons_self)
      exact ih hfirst fun o' hmem => ho o' (List.mem_cons_of_mem _ hmem)

theorem arrangement_ne_call (t : Turn σ) : ∀ o ∈ t.arrangement, ∀ c, o ≠ .call c := by
  intro o hmem c
  simp only [Turn.arrangement, List.mem_append, List.mem_map, Option.mem_toList,
    Option.map_eq_some_iff] at hmem
  rcases hmem with ⟨point, -, rfl⟩ | ⟨credentials, -, rfl⟩ <;> simp

theorem answeredIn_map {α β : Type} (directory : Directory σ) (w : Work α) (f : α → β)
    (s : Alone σ) :
    (w >>= fun x => Script.done (f x)).answeredIn (answer directory) s =
      (f (w.answeredIn (answer directory) s).1, (w.answeredIn (answer directory) s).2) := by
  rw [Script.answeredIn_bind]
  rfl

theorem work_start (config : Config) (files : Files) (defaults : Properties) :
    (Command.start config files defaults).work =
      Manager.start config files defaults >>= fun r => Script.done (.started r) :=
  rfl

theorem work_close : Command.close.work = Manager.close >>= fun _ => Script.done .closed := rfl

/-- Whoever was started before is not started again, and nothing changes. -/
theorem start_again (directory : Directory σ) (s : Alone σ) (config : Config) (files : Files)
    (defaults : Properties) (h : s.manager.state ≠ .uninitialized) :
    (Manager.start config files defaults).answeredIn (answer directory) s =
      (.error (.lifecycle s.manager.state), s) := by
  change ((ite (s.manager.state ≠ .uninitialized) _ _ :
    Work (Except ConfigurationError Unit)).answeredIn (m := StateM (Alone σ))
      (answer directory)) s = _
  rw [if_pos h]
  rfl

theorem Balanced.start {s : Alone σ} (h : s.Balanced) (directory : Directory σ) (config : Config)
    (files : Files) (defaults : Properties) {r : Except ConfigurationError Unit} {s' : Alone σ}
    (hrun : (Manager.start config files defaults).answeredIn (answer directory) s = (r, s')) :
    s'.Balanced ∧ (s.manager.state = .uninitialized →
      (r = .ok () ∧ s'.manager.state = .ready) ∨
        (∃ e, r = .error e) ∧ s'.manager.state = .failed) := by
  obtain ⟨ours, past, hwhole, horder, hgained⟩ := h
  obtain ⟨ours', past', hwhole', horder', hstarted⟩ := of_secures directory
    (Manager.secures_start (i := 0) config files defaults trivial horder) hwhole
  rw [hrun] at hwhole' horder' hstarted
  cases hstarted with
  | ready held hstate hmanager hgrown =>
      change s'.manager = _ at hmanager
      change s.manager.state = _ at hstate
      refine ⟨⟨ours', past', hwhole', horder', fun kind => ?_⟩, fun _ => .inl ⟨rfl, ?_⟩⟩
      · rw [hgrown, hgained, hmanager, hstate]
        simp
      · rw [hmanager]
  | failed e hstate hmanager hgrown =>
      change s'.manager = _ at hmanager
      change s.manager.state = _ at hstate
      refine ⟨⟨ours', past', hwhole', horder', fun kind => ?_⟩, fun _ => .inr ⟨⟨e, rfl⟩, ?_⟩⟩
      · rw [hgrown, hgained, hmanager, hstate]
        simp
      · rw [hmanager]
  | refused hstate hmanager hgrown =>
      change s'.manager = s.manager at hmanager
      refine ⟨⟨ours', past', hwhole', horder', fun kind => ?_⟩, fun hnew => absurd hnew hstate⟩
      rw [hgrown, hgained, hmanager]

theorem Balanced.close {s : Alone σ} (h : s.Balanced) (directory : Directory σ) {s' : Alone σ}
    (hrun : (Manager.close.answeredIn (answer directory) s).2 = s') :
    s'.Balanced ∧ s'.manager.state = .closed := by
  obtain ⟨ours, past, hwhole, horder, hgained⟩ := h
  obtain ⟨ours', past', hwhole', horder', hclosed⟩ := of_secures directory
    (Manager.secures_close (i := 0) horder) hwhole
  rw [hrun] at hwhole' horder' hclosed
  have hstate : s'.manager.state = .closed := hclosed.state
  refine ⟨⟨ours', past', hwhole', horder', fun kind => ?_⟩, hstate⟩
  rw [hclosed.gained, hgained, hstate]
  change (if s.manager.state = .ready then oneOfEach kind else 0) -
    (if s.manager.state = .ready then oneOfEach kind else 0) = _
  simp

/-- Whether a command was to start and did so. -/
def Result.isStart : Result → Bool
  | .started (.ok _) => true
  | _ => false

/-- What a command comes to. -/
structure Carried (t : Turn σ) (s : Alone σ) (result : Result) (s' : Alone σ) : Prop where
  start : ∀ config files defaults, t.command = .start config files defaults →
    if s.manager.state = .uninitialized then
      (result = .started (.ok ()) ∧ s'.manager.state = .ready) ∨
        (∃ e, result = .started (.error e)) ∧ s'.manager.state = .failed
    else result = .started (.error (.lifecycle s.manager.state)) ∧ s' = s.arrange t.arrangement
  close : t.command = .close → result = .closed ∧ s'.manager.state = .closed

theorem Balanced.turn {s : Alone σ} (h : s.Balanced) (t : Turn σ) :
    (s.turn t).2.Balanced ∧ Carried t s (s.turn t).1 (s.turn t).2 := by
  have harranged := h.arrange t.arrangement (arrangement_ne_call t)
  obtain ⟨⟨result, s'⟩, hturn⟩ : ∃ x, s.turn t = x := ⟨_, rfl⟩
  rw [hturn]
  unfold Alone.turn at hturn
  cases hcommand : t.command with
  | start config files defaults =>
      rw [hcommand, work_start, answeredIn_map] at hturn
      obtain ⟨rfl, rfl⟩ := Prod.mk.injEq .. ▸ hturn
      obtain ⟨hbalanced, hfirst⟩ := harranged.start t.directory config files defaults rfl
      refine ⟨hbalanced, ?_, by simp [hcommand]⟩
      intro config' files' defaults' heq
      rw [hcommand, Command.start.injEq] at heq
      obtain ⟨rfl, rfl, rfl⟩ := heq
      split
      next hnew =>
        rcases hfirst hnew with ⟨hr, hstate⟩ | ⟨⟨e, hr⟩, hstate⟩
        · exact .inl ⟨congrArg _ hr, hstate⟩
        · exact .inr ⟨⟨e, congrArg _ hr⟩, hstate⟩
      next hnew =>
        have hagain := start_again t.directory (s.arrange t.arrangement) config files defaults hnew
        rw [hagain]
        exact ⟨rfl, rfl⟩
  | close =>
      rw [hcommand, work_close, answeredIn_map] at hturn
      obtain ⟨rfl, rfl⟩ := Prod.mk.injEq .. ▸ hturn
      obtain ⟨hbalanced, hstate⟩ := harranged.close t.directory rfl
      exact ⟨hbalanced, by simp [hcommand], fun _ => ⟨rfl, hstate⟩⟩

/-- A manager that is closed stays closed. -/
theorem Carried.closed {t : Turn σ} {s s' : Alone σ} {result : Result}
    (h : Carried t s result s') (hclosed : s.manager.state = .closed) :
    s'.manager.state = .closed := by
  cases hcommand : t.command with
  | start config files defaults =>
      have hstart := h.start config files defaults hcommand
      rw [if_neg (by rw [hclosed]; simp)] at hstart
      rw [hstart.2]
      exact hclosed
  | close => exact (h.close hcommand).2

/-- How often the manager may still be started. -/
def startsLeft (s : Alone σ) : Nat := if s.manager.state = .uninitialized then 1 else 0

theorem Carried.startsLeft {t : Turn σ} {s s' : Alone σ} {result : Result}
    (h : Carried t s result s') : result.isStart.toNat + s'.startsLeft ≤ s.startsLeft := by
  unfold Alone.startsLeft
  cases hcommand : t.command with
  | start config files defaults =>
      have hstart := h.start config files defaults hcommand
      split at hstart
      next hnew =>
        rcases hstart with ⟨rfl, hstate⟩ | ⟨⟨e, rfl⟩, hstate⟩
        · simp [hstate, hnew, Result.isStart]
        · simp [hstate, hnew, Result.isStart]
      next hold =>
        obtain ⟨rfl, rfl⟩ := hstart
        have hsame : (s.arrange t.arrangement).manager = s.manager := rfl
        simp [hsame, hold, Result.isStart]
  | close =>
      obtain ⟨rfl, hstate⟩ := h.close hcommand
      simp [hstate, Result.isStart]

theorem Balanced.run {s : Alone σ} (h : s.Balanced) (history : List (Turn σ)) :
    (s.run history).2.Balanced ∧
      (s.run history).1.countP Result.isStart + (s.run history).2.startsLeft ≤ s.startsLeft := by
  induction history generalizing s with
  | nil => exact ⟨h, by simp [Alone.run]⟩
  | cons t rest ih =>
      obtain ⟨hbalanced, hcarried⟩ := h.turn t
      obtain ⟨hlast, hcount⟩ := ih hbalanced
      have hfirst := hcarried.startsLeft
      refine ⟨hlast, ?_⟩
      change ((s.turn t).1 :: ((s.turn t).2.run rest).1).countP Result.isStart +
        ((s.turn t).2.run rest).2.startsLeft ≤ s.startsLeft
      rw [List.countP_cons]
      cases hresult : (s.turn t).1.isStart <;> rw [hresult] at hfirst <;> simp at hfirst ⊢ <;> omega

/-- Whatever was asked of a manager that is alone with its broker: the handles that are open are one
of each kind that it holds when it is ready, and none otherwise; it was started at most once; and
the next command comes to what its state says. -/
theorem lifecycle_balanced (mailboxes : Keyed Mailbox) (directory : σ) (history : List (Turn σ))
    (t : Turn σ) :
    let (results, s) := (fresh mailboxes directory).run history
    let (result, s') := s.turn t
    s.broker.openHandles =
        (if s.manager.state = .ready then { connections := 1, sessions := 1, producers := 1 }
        else {}) ∧
      (s.manager.resources.isSome ↔ s.manager.state = .ready) ∧
      results.countP Result.isStart ≤ 1 ∧
      Carried t s result s' ∧
      (s.manager.state = .closed → s'.manager.state = .closed) := by
  obtain ⟨hbalanced, hcount⟩ := (balanced_fresh mailboxes directory).run history
  obtain ⟨-, hcarried⟩ := hbalanced.turn t
  exact ⟨hbalanced.openHandles, hbalanced.resources, (Nat.le_add_right _ _).trans hcount, hcarried,
    hcarried.closed⟩

end Alone

end Sluice
