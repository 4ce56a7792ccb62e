import Sluice.Proofs.Broker.Kinds
import Sluice.Proofs.Router.AllOrNothing
import Sluice.Proofs.Task.Chronicle

/-! # Topics and the depth of a destination

A destination that is taken for a topic by everybody is inspected exactly if a message was delivered
there before it was declared. A router at a topic of which this is not so is let through without a
look at the depth.
-/

namespace Sluice

namespace Scene

variable {J α : Type}

/-- Whatever resources were held, they were those of one destination. -/
def HeldFor (s : Scene J α) (d : Destination) : Prop :=
  ∀ e ∈ s.past, ∀ held, e.before.manager.resources = some held → held.destination = d

/-- Nobody has ever found a queue under a name that is not known as one. -/
theorem Chronicled.not_found {s : Scene J α} (h : s.Chronicled) {name : String}
    (hnot : s.broker.kind? name ≠ some .queue) (hheld : s.HeldFor (.topic name)) {i : Nat} :
    ¬ ∃ e ∈ s.moment.own i, ∃ held, e.before.manager.resources = some held ∧
      e.Finds held.destination .queue := by
  rintro ⟨e, he, held, hresources, -, -, hkind⟩
  have hmem : e ∈ s.past := List.mem_of_mem_filter he
  rw [hheld e hmem held hresources, Broker.kindOf_topic_eq_queue_iff] at hkind
  exact hnot (h.kinds e hmem name .queue hkind)

end Scene

namespace Router

/-- Of a name that everybody takes for a topic a browser is given out exactly if a message was
delivered there before anybody had declared it. Otherwise a router at this topic never rests and
never gives up, and whatever it sends is let through because its destination is no queue, unless the
depth is not looked at in any case or the station was shut down. -/
theorem topic_inspected_iff_adopted (name : String) :
    (∀ run, Broker.TakenForTopic name run → ∀ now s found b,
      (({} : Broker).after run).perform now (.createBrowser s (.topic name)) = (.ok found, b) →
        (found.isSome ↔ Broker.Adopted name run)) ∧
      ∀ (r : Router) (choices : List (Choice Job)),
        Broker.TakenForTopic name (r.life choices).operations →
        ¬ Broker.Adopted name (r.life choices).operations →
        (r.life choices).HeldFor (.topic name) →
          (∀ i deadline ticket next,
            (r.life choices).state? i ≠ some (.resting deadline ticket next)) ∧
          ∀ i values x, (r.life choices).jobs[i]? = some (.publish values) →
            (r.life choices).state? i = some (.finished (.routed x)) →
              (∀ e ∈ (r.life choices).moment.own i, e.deed.waits = false) ∧
              (∀ e, x = .error e → e.isBackpressure = false) ∧
              (x = .ok () → r.config.admission.isEnabled = false ∨
                (∃ e ∈ (r.life choices).moment.own i, e.deed = .looked true) ∨
                  ∃ e ∈ (r.life choices).moment.own i, e.Finds (.topic name) .topic) := by
  refine ⟨fun run htopic now s found b hperform => ?_, fun r choices htopic hnot hheld => ?_⟩
  · rw [Broker.isSome_of_createBrowser hperform, Broker.kindOf_topic_eq_queue_iff,
      Broker.kind?_after_eq_queue_iff htopic]
  · have hsound := sound_life (G := .free r.config.admission) once_empty choices
    have hchronicled : (r.life choices).Chronicled := Scene.chronicled_run (Job.work r) choices
    have hkind : (r.life choices).broker.kind? name ≠ some .queue := by
      rw [hchronicled.broker, ne_eq, Broker.kind?_after_eq_queue_iff htopic]
      exact hnot
    refine ⟨fun i deadline ticket next hstate => ?_, fun i values x hjob hstate => ?_⟩
    · obtain ⟨t, ht, hresting⟩ := Option.map_eq_some_iff.mp hstate
      exact hchronicled.not_found hkind hheld (hsound.resting ht hresting).2
    · obtain ⟨t, ht, hfinished⟩ := Option.map_eq_some_iff.mp hstate
      obtain ⟨-, hwatched⟩ : Account r values _ x ∧ Watched r _ x :=
        hsound.accounted ht hjob hfinished
      -- whoever waits has found a queue, and what was once a queue would be one now
      have hwaits : ∀ e ∈ (r.life choices).moment.own i, e.deed.waits = false := by
        intro e he
        by_contra hwait
        exact hchronicled.not_found hkind hheld (hwatched.waits e he (by simpa using hwait))
      refine ⟨hwaits, fun e hfailed => ?_, fun hsent => ?_⟩
      · by_contra hpressure
        obtain ⟨e, he, hwait⟩ := hwatched.late e hfailed (by simpa using hpressure)
        simp [hwaits e he] at hwait
      · obtain ⟨e, he, held, hresources, a, hshown⟩ := hwatched.admitted hsent
        have hdestination : held.destination = .topic name :=
          hheld e (List.mem_of_mem_filter he) held hresources
        rw [hdestination] at hshown
        cases a with
        | disabled => exact .inl hshown
        | interrupted =>
            obtain ⟨e, he, hthrough⟩ := hshown
            refine .inr (.inl ⟨e, he, ?_⟩)
            have hwait := hwaits e he
            cases hdeed : e.deed <;> simp_all [Deed.letsThrough, Deed.waits]
        | notInspectable => exact .inr (.inr hshown)
        | admitted waited =>
            obtain ⟨e, he, hwait⟩ := hshown
            simp [hwaits e he] at hwait

/-- A message is brought to a topic that nobody has declared, and a session is opened. -/
def adoptedRun : List (Nat × Operation) :=
  [(0, .inject (.topic "events") { body := .text "first" }), (0, .call (.createConnection none)),
    (0, .call (.createSession ⟨0⟩ false .auto))]

theorem topic_inspected_adopted : ¬ ∀ run name, Broker.TakenForTopic name run → ∀ now s found b,
    (({} : Broker).after run).perform now (.createBrowser s (.topic name)) = (.ok found, b) →
      found = none := by
  intro hnever
  have htopic : Broker.TakenForTopic "events" adoptedRun := by decide
  have hnone := hnever adoptedRun "events" htopic 0 ⟨0⟩ (some ⟨0⟩) _ rfl
  simp at hnone

/-- A router that publishes to a topic while nothing waits there. -/
def topicRouter : Router where
  config := { destinationName := some "events", admission := { highWaterMark := 0 } }
  valueKey := "event"
  destinationName := "events"
  encoder _ _ := .ok (.text "first")
  assigner := .disabled

/-- The topic is declared, the router started, and it publishes twice. -/
def publishedToTopic : List (Choice Job) :=
  [.operate (.declare (.topic "events")),
    .bind (Keyed.ofList
      [("events", .destination (.topic "events")), ("ConnectionFactory", .connectionFactory)]),
    .begin (.start (fun _ => .error .missing) Keyed.empty)] ++ List.replicate 13 (.act 0) ++
    [.begin (.publish Keyed.empty)] ++ List.replicate 9 (.act 1) ++
      [.begin (.publish Keyed.empty)] ++ List.replicate 9 (.act 2)

set_option maxRecDepth 4000 in
theorem topic_inspected_iff_adopted_published :
    Broker.Adopted "events" adoptedRun ∧
      ∃ e ∈ (topicRouter.life publishedToTopic).moment.own 2, e.Finds (.topic "events") .topic := by
  obtain ⟨hbroker, hrouter⟩ := topic_inspected_iff_adopted "events"
  refine ⟨?_, ?_⟩
  · have htopic : Broker.TakenForTopic "events" adoptedRun := by decide
    exact (hbroker adoptedRun htopic 0 ⟨0⟩ (some ⟨0⟩) _ rfl).mp rfl
  · have htopic : Broker.TakenForTopic "events" (topicRouter.life publishedToTopic).operations := by
      decide
    have hnot : ¬ Broker.Adopted "events" (topicRouter.life publishedToTopic).operations := by
      rw [← Broker.kind?_after_eq_queue_iff htopic]
      decide
    have hheld : ∀ e ∈ (topicRouter.life publishedToTopic).past,
        ∀ held ∈ e.before.manager.resources, held.destination = .topic "events" := by
      decide
    have hjob : (topicRouter.life publishedToTopic).jobs[2]? = some (.publish Keyed.empty) := rfl
    have hstate : (topicRouter.life publishedToTopic).state? 2 =
      some (.finished (.routed (.ok ()))) := rfl
    obtain ⟨-, hpublished⟩ := hrouter topicRouter publishedToTopic htopic hnot hheld
    obtain ⟨-, -, hadmitted⟩ := hpublished 2 Keyed.empty (.ok ()) hjob hstate
    rcases hadmitted rfl with hdisabled | hdown | hfound
    · exact absurd hdisabled (by decide)
    · obtain ⟨e, he, hdeed⟩ := hdown
      have hup : ∀ e ∈ (topicRouter.life publishedToTopic).moment.own 2,
          e.deed.letsThrough = false := by
        decide
      have hthis := hup e he
      rw [hdeed] at hthis
      exact absurd hthis (by decide)
    · exact hfound

end Router

end Sluice
