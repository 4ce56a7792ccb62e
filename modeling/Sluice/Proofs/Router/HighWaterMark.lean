import Mathlib.Data.List.Dedup
import Sluice.Proofs.Router.AllOrNothing
import Sluice.Proofs.Task.Chronicle

/-! # The high-water mark bounds the queue

A queue holds no more messages that are not expired than the mark allows, and those of publishings
that were let through when a wait was ended, and those that somebody else brought. The depth is
credited with the latter two, and a publishing that found the depth below the mark has room for one
more message until it has sent it: nobody of the same station sends in between.
-/

namespace Sluice

namespace Broker

theorem depth_eq (b : Broker) (now : Nat) (name : String) :
    (b.depth now name).1 = (b.waiting name).countP fun p => !p.isExpired now := by
  simp only [depth, waiting_purge, if_pos, List.countP_eq_length_filter]

/-- As time passes messages expire, and none comes back. -/
theorem depth_antitone (b : Broker) {now later : Nat} (h : now ≤ later) (name : String) :
    (b.depth later name).1 ≤ (b.depth now name).1 := by
  rw [depth_eq, depth_eq]
  apply List.countP_mono_left
  intro p _ hp
  cases hnow : p.isExpired now with
  | false => rfl
  | true =>
      rw [Parcel.isExpired_of_le h hnow] at hp
      cases hp

/-- A destination grows by no more than is delivered there. -/
theorem depth_operate (b : Broker) (now : Nat) (o : Operation) (name : String) :
    ((b.operate now o).2.depth now name).1 ≤ (b.depth now name).1 +
      ((b.delivered now o).filter fun p => p.destination = name).length := by
  rw [depth_eq, depth_eq]
  refine (b.waiting_operate now o name).countP_le.trans ?_
  rw [List.countP_append]
  exact Nat.add_le_add_left List.countP_le_length _

end Broker

namespace Event

/-- Whether a publishing was let through because its wait was ended or not begun. -/
def letThrough (e : Event) : Bool := e.task.isSome && e.deed.letsThrough

/-- The messages that somebody else brought to a destination. -/
def brought (name : String) (e : Event) : List Parcel :=
  match e.task, e.deed with
  | none, .operated o => (e.before.broker.delivered e.now o).filter fun p => p.destination = name
  | _, _ => []

end Event

/-- A queue is within its bound since a number of events and of interruptions, with room for more
messages. -/
structure Within (threshold : Nat) (name : String) (start rounds room : Nat) (m : Moment) :
    Prop where
  later : start ≤ m.past.length
  kind : m.broker.kind? name = some .queue
  depth : (m.broker.depth m.now name).1 + room ≤
    threshold + (m.past.drop start).countP Event.letThrough +
      ((m.past.drop start).flatMap (Event.brought name)).length
  rounds_le : rounds ≤ m.signal.rounds
  /-- Nobody is let through if the signal was not raised. -/
  unraised : m.signal.isShutDown = false → m.signal.rounds = rounds →
    (m.past.drop start).countP Event.letThrough = 0

namespace Within

variable {threshold : Nat} {name : String} {start rounds room : Nat} {m m' : Moment}

/-- The bound is kept if the queue grows by no more than somebody else brought, or as far as there
is room. -/
theorem step (h : Within threshold name start rounds room m) {room' : Nat} {events : List Event}
    (hpast : m'.past = m.past ++ events) (hkind : m'.broker.kind? name = some .queue)
    (hdepth : (m'.broker.depth m'.now name).1 + room' ≤
      (m.broker.depth m.now name).1 + room + (events.flatMap (Event.brought name)).length)
    (hsignal : m.signal.Raised m'.signal) (hthrough : events.countP Event.letThrough = 0) :
    Within threshold name start rounds room' m' := by
  have hlater := h.later
  have hdrop : m'.past.drop start = m.past.drop start ++ events := by
    rw [hpast, List.drop_append_of_le_length hlater]
  refine ⟨?_, hkind, ?_, h.rounds_le.trans hsignal.rounds, ?_⟩
  · rw [hpast, List.length_append]
    omega
  · have hbound := h.depth
    rw [hdrop, List.countP_append, List.flatMap_append, List.length_append]
    omega
  · intro hdown hrounds
    have hup : m.signal.isShutDown = false := by
      by_contra hnot
      rw [hsignal.isShutDown (by simpa using hnot)] at hdown
      simp at hdown
    -- a signal that is as it was at the start was never raised in between
    have hsame : m.signal.rounds = rounds := by
      have hfirst := h.rounds_le
      have hsecond := hsignal.rounds
      omega
    rw [hdrop, List.countP_append, h.unraised hup hsame, hthrough]

theorem lessRoom (h : Within threshold name start rounds room m) {room' : Nat}
    (hle : room' ≤ room) : Within threshold name start rounds room' m :=
  ⟨h.later, h.kind, (Nat.add_le_add_left hle _).trans h.depth, h.rounds_le, h.unraised⟩

/-- Whoever is let through makes room for one more message. -/
theorem ended (h : Within threshold name start rounds room m) {i : Nat} {d : Deed}
    (hthrough : d.letsThrough = true)
    (hraised : m.signal.isShutDown = true ∨ rounds < m.signal.rounds) :
    Within threshold name start rounds (room + 1) (m.idled i d) := by
  have hlater := h.later
  have hbound := h.depth
  have hdrop : (m.idled i d).past.drop start =
      m.past.drop start ++ [⟨some i, d, m.now, m.toGround, m.toGround⟩] :=
    List.drop_append_of_le_length hlater
  refine ⟨?_, h.kind, ?_, h.rounds_le, ?_⟩
  · change start ≤ (m.past ++ [_]).length
    rw [List.length_append]
    omega
  · rw [hdrop, List.countP_append, List.flatMap_append, List.length_append]
    have hone : [Event.mk (some i) d m.now m.toGround m.toGround].countP Event.letThrough = 1 := by
      simp [Event.letThrough, hthrough]
    rw [hone]
    change (m.broker.depth m.now name).1 + (room + 1) ≤ _
    omega
  · intro hdown hrounds
    change m.signal.isShutDown = false at hdown
    change m.signal.rounds = rounds at hrounds
    rcases hraised with hraised | hraised
    · simp [hdown] at hraised
    · omega

theorem quiet (threshold : Nat) (name : String) (start rounds room : Nat) :
    Quiet (Within threshold name start rounds room) where
  stable i m m' hshift h := by
    cases hshift with
    | beside now signal events hnow hsignal hevents =>
        have hthrough : events.countP Event.letThrough = 0 := by
          rw [List.countP_eq_zero]
          intro e he
          simp [Event.letThrough, Deed.letsThrough, (hevents e he).2.2]
        refine h.step rfl h.kind ?_ hsignal hthrough
        have hdepth := m.broker.depth_antitone hnow name
        change (m.broker.depth now name).1 + room ≤ _
        omega
    | operated o huses =>
        refine h.step rfl (Broker.kind?_operate_of_known h.kind m.now o) ?_ (.refl _) ?_
        · have hdepth := m.broker.depth_operate m.now o name
          rw [List.flatMap_singleton, Nat.add_right_comm]
          exact Nat.add_le_add_right hdepth room
        · simp [Event.letThrough]
  idled m i d hd h := by
    refine h.step rfl h.kind (Nat.le_add_right _ _) (.refl _) ?_
    simp [Event.letThrough, hd]
  called m i c reply b hperform hsent h := by
    have hoperate : (m.broker.operate m.now (.call c)).2 = b := congrArg Prod.snd hperform
    refine h.step rfl ?_ ?_ (.refl _) ?_
    · exact hoperate ▸ Broker.kind?_operate_of_known h.kind m.now (.call c)
    · have hdepth := m.broker.depth_operate m.now (.call c) name
      rw [hsent, hoperate] at hdepth
      exact Nat.add_le_add_right hdepth room
    · simp [Event.letThrough, Deed.letsThrough]

end Within

/-- The gate at which the queue is kept within its bound. -/
def Gate.bound (admission : AdmissionConfig) (henabled : admission.isEnabled = true) (name : String)
    (start rounds : Nat) : Gate admission where
  safe := Within admission.threshold name start rounds 0
  calm := Within admission.threshold name start rounds 0
  resting _ := True
  safe_of_calm _ h := h
  calm_stable := (Within.quiet _ _ _ _ _).stable
  permit d := Within admission.threshold name start rounds (if d = name then 1 else 0)
  ticket n := rounds ≤ n
  calm_of_permit d m h := h.lessRoom (Nat.zero_le _)
  quiet_calm := Within.quiet _ _ _ _ _
  quiet_permit _ := Within.quiet _ _ _ _ _
  calm_kept m i x h := by
    refine h.step rfl h.kind (Nat.le_add_right _ _) (.refl _) ?_
    simp [Event.letThrough, Deed.letsThrough]
  permit_disabled hdisabled := by simp [henabled] at hdisabled
  ticket_of_calm m h := h.rounds_le
  permit_ended d m i deed hthrough _ hraised h := by
    refine (h.ended hthrough ?_).lessRoom ?_
    · rcases hraised with hdown | ⟨n, hn, hlt⟩
      · exact .inl hdown
      · exact .inr (Nat.lt_of_le_of_lt hn hlt)
    · split <;> omega
  permit_topic d m hkind h := by
    have hne : d.name ≠ name := by
      rintro rfl
      rw [Broker.kindOf_eq, h.kind] at hkind
      simp at hkind
    rw [if_neg hne]
    exact h
  permit_below d m hbelow h := by
    split
    next heq =>
      subst heq
      exact ⟨h.later, h.kind, by omega, h.rounds_le, h.unraised⟩
    next => exact h
  calm_sent d m i c reply b p hperform hsent hdestination h := by
    have hoperate : (m.broker.operate m.now (.call c)).2 = b := congrArg Prod.snd hperform
    have hdepth := m.broker.depth_operate m.now (.call c) name
    rw [hsent, hoperate, List.filter_singleton, hdestination] at hdepth
    refine h.step rfl ?_ ?_ (.refl _) ?_
    · exact hoperate ▸ Broker.kind?_operate_of_known h.kind m.now (.call c)
    -- the message takes the room that the permit has kept for it
    · change (b.depth m.now name).1 + 0 ≤ _
      refine hdepth.trans (Nat.le_trans ?_ (Nat.le_add_right _ _))
      split <;> simp_all
    · simp [Event.letThrough, Deed.letsThrough]
  resting_inspected _ _ _ := trivial

namespace Scene

variable {J α : Type}

/-- How many messages that are not expired wait at a destination. -/
def depth (s : Scene J α) (name : String) : Nat := (s.broker.depth s.schedule.now name).1

/-- What has happened since another scene. -/
def since (s start : Scene J α) : List Event := s.past.drop start.past.length

/-- The tasks that were let through since another scene. -/
def passers (s start : Scene J α) : List Nat :=
  (((s.since start).filter Event.letThrough).filterMap Event.task).dedup

/-- The messages that somebody else brought to a destination since another scene. -/
def brought (s start : Scene J α) (name : String) : List Parcel :=
  (s.since start).flatMap (Event.brought name)

theorem length_passers {s : Scene J α} (h : s.moment.Once) (start : Scene J α) :
    (s.passers start).length = (s.since start).countP Event.letThrough := by
  have hnodup : (((s.since start).filter Event.letThrough).filterMap Event.task).Nodup := by
    rw [List.nodup_iff_count_le_one]
    intro i
    -- a task shows up once, because it was let through at most once in its life
    have hown : (s.past.countP fun e => e.task == some i && e.letThrough) ≤
        (s.moment.own i).countP (·.deed.letsThrough) := by
      rw [Moment.own, List.countP_filter]
      apply List.countP_mono_left
      intro e _ he
      simp_all [Event.letThrough]
    rw [List.count_filterMap, List.countP_filter]
    exact ((List.drop_sublist _ _).countP_le.trans hown).trans (h i)
  rw [passers, hnodup.dedup, List.length_filterMap_eq_countP, List.countP_filter]
  apply List.countP_congr
  intro e _
  simp [Event.letThrough]

end Scene

namespace Router

/-- The gate of a router whose queue is kept within its bound since a scene. -/
abbrev gate (r : Router) (start : Life) (name : String)
    (henabled : r.config.admission.isEnabled = true) : Gate r.config.admission :=
  (Gate.free r.config.admission).both
    (.bound r.config.admission henabled name start.past.length start.station.signal.rounds)

/-- What is in order stays in order, and the queue within its bound. -/
theorem sound_bound (r : Router) (before choices : List (Choice Job)) (name : String)
    (henabled : r.config.admission.isEnabled = true) (hidle : (r.life before).isIdle = true)
    (hqueue : (r.life before).broker.kind? name = some .queue)
    (hempty : (r.life before).depth name = 0) :
    (r.life (before ++ choices)).Sound (r.gate (r.life before) name henabled).life
      (Job.account r) := by
  have hsound := sound_life (G := .free r.config.admission) once_empty before
  obtain ⟨horder, honce⟩ := hsound.calm (hsound.nobody hidle)
  have hwithin : Within r.config.admission.threshold name (r.life before).past.length
      (r.life before).station.signal.rounds 0 (r.life before).moment := by
    refine ⟨Nat.le_refl _, hqueue, ?_, Nat.le_refl _, ?_⟩
    · have hnone : ((r.life before).moment.broker.depth (r.life before).moment.now name).1 = 0 :=
        hempty
      omega
    · intro _ _
      change ((r.life before).past.drop (r.life before).past.length).countP _ = 0
      simp
  have hrenewed : (r.life before).Sound (r.gate (r.life before) name henabled).life
      (Job.account r) := hsound.renew hidle ⟨horder, honce, hwithin⟩
  have hlife : r.life (before ++ choices) = (r.life before).run (Job.work r) choices :=
    Scene.run_append _ _ _ _
  rw [hlife]
  exact hrenewed.run (fun job _ _ hown => Gate.abides_work job hown) choices

/-- A queue that was empty when the router had nothing to do never holds more messages than the mark
allows, and one for each task that was let through since, and those that somebody else brought. -/
theorem depth_le_mark (r : Router) (before choices : List (Choice Job)) (name : String)
    (hmark : 0 ≤ r.config.admission.highWaterMark.toInt) (hidle : (r.life before).isIdle = true)
    (hqueue : (r.life before).broker.kind? name = some .queue)
    (hempty : (r.life before).depth name = 0) :
    ((r.life (before ++ choices)).depth name : Int) ≤
        max r.config.admission.highWaterMark.toInt 1 +
          ((r.life (before ++ choices)).passers (r.life before)).length +
          ((r.life (before ++ choices)).brought (r.life before) name).length ∧
      ((r.life before).station.signal.isShutDown = false →
        (r.life (before ++ choices)).station.signal = (r.life before).station.signal →
        (r.life (before ++ choices)).brought (r.life before) name = [] →
          ((r.life (before ++ choices)).depth name : Int) ≤
            max r.config.admission.highWaterMark.toInt 1) := by
  have henabled : r.config.admission.isEnabled = true := by
    rw [AdmissionConfig.isEnabled, bne_iff_ne]
    intro hdisabled
    rw [hdisabled] at hmark
    exact absurd hmark (by decide)
  have hsound := sound_bound r before choices name henabled hidle hqueue hempty
  obtain ⟨-, honce, hwithin⟩ := hsound.safe
  have hbound : (r.life (before ++ choices)).depth name + 0 ≤ r.config.admission.threshold +
      ((r.life (before ++ choices)).since (r.life before)).countP Event.letThrough +
      ((r.life (before ++ choices)).brought (r.life before) name).length := hwithin.depth
  have hthreshold : (r.config.admission.threshold : Int) =
      max r.config.admission.highWaterMark.toInt 1 := by
    rw [AdmissionConfig.threshold, Int.toNat_of_nonneg (by omega)]
  have hpassers := Scene.length_passers honce (r.life before)
  refine ⟨by omega, fun hup hsame hnone => ?_⟩
  have hthrough :
      ((r.life (before ++ choices)).since (r.life before)).countP Event.letThrough = 0 :=
    hwithin.unraised ((congrArg Signal.isShutDown hsame).trans hup) (congrArg Signal.rounds hsame)
  rw [hthrough, hnone] at hbound
  simp only [List.length_nil] at hbound
  omega

/-- A router that publishes while its queue is empty. -/
def narrowRouter : Router where
  config :=
    { destinationName := some "orders"
      admission := { highWaterMark := 0, timeout := 10, pollInterval := 5 } }
  valueKey := "order"
  destinationName := "orders"
  encoder _ _ := .ok (.text "first")
  assigner := .disabled

/-- The queue is declared, and the router started. -/
def startedAtQueue : List (Choice Job) :=
  [.operate (.declare (.queue "orders")),
    .bind (Keyed.ofList
      [("orders", .destination (.queue "orders")), ("ConnectionFactory", .connectionFactory)]),
    .begin (.start (fun _ => .error .missing) Keyed.empty)] ++ List.replicate 13 (.act 0)

/-- The router publishes, and once more; the second time it rests until it is interrupted. -/
def publishedTwice : List (Choice Job) :=
  [.begin (.publish Keyed.empty)] ++ List.replicate 16 (.act 1) ++
    [.begin (.publish Keyed.empty)] ++ List.replicate 9 (.act 2) ++ [.pass 3, .interrupt] ++
      List.replicate 7 (.act 2)

set_option maxRecDepth 4000 in
theorem depth_le_mark_interrupted :
    (narrowRouter.life startedAtQueue).depth "orders" = 0 ∧
      (narrowRouter.life (startedAtQueue ++ publishedTwice)).depth "orders" = 2 ∧
      ((narrowRouter.life (startedAtQueue ++ publishedTwice)).depth "orders" : Int) ≤
        max 0 1 + 1 + 0 := by
  have hempty : (narrowRouter.life startedAtQueue).depth "orders" = 0 := rfl
  refine ⟨hempty, rfl, ?_⟩
  exact (depth_le_mark narrowRouter startedAtQueue publishedTwice "orders" (by decide) rfl rfl
    hempty).1

end Router

end Sluice
