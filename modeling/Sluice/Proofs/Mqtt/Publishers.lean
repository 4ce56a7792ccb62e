import Sluice.Mqtt.Bridge
import Sluice.Proofs.Wire.Envelopes

/-! # What a publisher publishes

A publisher keeps the quality of its settings beside the settings themselves. The two stay in step
whatever it is called for, so every message goes out with the headers of the settings applied last
and at the quality that belongs to them, in one packet that is read back as an envelope.
-/

namespace Sluice.Mqtt

/-! ### Topics -/

theorem openPublisher_isOk_iff (topic : String) :
    (∃ p, Bridge.openPublisher topic = .ok p) ↔
      (1 ≤ topic.utf8ByteSize ∧ topic.utf8ByteSize ≤ 65535) ∧
        ∀ c ∈ topic.toList, c ≠ '\x00' ∧ c ≠ '#' ∧ c ≠ '+' := by
  have hallowed : topic.toList.any isForbidden = false ↔
      ∀ c ∈ topic.toList, c ≠ '\x00' ∧ c ≠ '#' ∧ c ≠ '+' := by
    simp [isForbidden, and_assoc]
  rw [← hallowed]
  unfold Bridge.openPublisher checkTopic maxTopicLength
  split
  next hlength =>
    constructor
    · rintro ⟨p, hp⟩
      cases hp
    · rintro ⟨⟨hlow, hhigh⟩, -⟩
      omega
  next hlength =>
    have hbounds : 1 ≤ topic.utf8ByteSize ∧ topic.utf8ByteSize ≤ 65535 := by omega
    split
    next hforbidden =>
      constructor
      · rintro ⟨p, hp⟩
        cases hp
      · rintro ⟨-, hnone⟩
        exact absurd hforbidden (by rw [hnone]; decide)
    next hforbidden =>
      have hnone : topic.toList.any isForbidden = false := by simpa using hforbidden
      exact ⟨fun _ => ⟨hbounds, hnone⟩, fun _ => ⟨{ topic }, rfl⟩⟩

theorem eq_of_openPublisher {topic : String} {p : Publisher}
    (h : Bridge.openPublisher topic = .ok p) : p = { topic } := by
  unfold Bridge.openPublisher at h
  cases htopic : checkTopic topic with
  | error e => rw [htopic] at h; cases h
  | ok _ =>
      rw [htopic] at h
      exact (Except.ok.inj h).symm

/-! ### Settings and quality -/

namespace Publisher

/-- What a publisher is called for. -/
inductive Call where
  | apply (settings : DeliverySettings)
  | send (m : Message)

/-- The settings that a call applies. -/
def Call.settings? : Call → Option DeliverySettings
  | .apply settings => some settings
  | .send _ => none

/-- The publisher after a call. To send is up to the bridge and leaves the publisher alone. -/
def step (p : Publisher) : Call → Publisher
  | .apply settings => p.applySettings settings
  | .send _ => p

def after (p : Publisher) (calls : List Call) : Publisher := calls.foldl step p

/-- The settings that were applied last, or the defaults if none were. -/
def lastSettings (calls : List Call) : DeliverySettings :=
  (calls.filterMap Call.settings?).getLast?.getD {}

/-- The quality is that of the settings. -/
def InStep (p : Publisher) : Prop := p.quality = Quality.ofMode p.settings.deliveryMode

variable {p : Publisher}

theorem InStep.step (h : p.InStep) (call : Call) : (p.step call).InStep := by
  cases call with
  | apply settings => rfl
  | send m => exact h

theorem InStep.after (h : p.InStep) (calls : List Call) : (p.after calls).InStep := by
  induction calls generalizing p with
  | nil => exact h
  | cons call rest ih => exact ih (h.step call)

theorem topic_after (p : Publisher) (calls : List Call) : (p.after calls).topic = p.topic := by
  induction calls generalizing p with
  | nil => rfl
  | cons call rest ih =>
      refine (ih (p.step call)).trans ?_
      cases call <;> rfl

theorem settings_after (p : Publisher) (calls : List Call) :
    (p.after calls).settings = (calls.filterMap Call.settings?).getLast?.getD p.settings := by
  induction calls generalizing p with
  | nil => rfl
  | cons call rest ih =>
      refine (ih (p.step call)).trans ?_
      cases call with
      | send m => rfl
      | apply settings =>
          change _ = (settings :: rest.filterMap Call.settings?).getLast?.getD p.settings
          rw [List.getLast?_cons]
          rfl

end Publisher

/-! ### Packets -/

/-- Sending comes to one packet: if it is accepted the far end sees that packet and no other, or
none where it is out of reach or the packet too large; otherwise nothing has happened. -/
structure Bridge.Publishes (b : Bridge) (packet : Packet)
    (outcome : Except BrokerError Unit × Bridge) : Prop where
  accepted_iff : outcome.1 = .ok () ↔ ¬ b.drive.isStopped
  accepted : outcome.1 = .ok () → outcome.2.peer.received =
    b.peer.received ++ if b.peer.isGone ∨ packet.isTooLarge then [] else [packet]
  rejected : outcome.1 ≠ .ok () → outcome.2 = b

theorem Bridge.request_publishes (b : Bridge) (packet : Packet) (poll : Poll) :
    b.Publishes packet (b.request packet poll) := by
  unfold Bridge.request
  split
  next hstopped => exact ⟨by simp [hstopped], nofun, fun _ => rfl⟩
  next hrunning =>
    split
    next hgone => exact ⟨by simp [hrunning], fun _ => by simp [hgone], fun h => absurd rfl h⟩
    next hreached =>
      split
      next hlarge =>
        refine ⟨by simp [hrunning], fun _ => ?_, fun h => absurd rfl h⟩
        rw [if_pos (.inr hlarge), List.append_nil]
        rfl
      next hsmall =>
        refine ⟨by simp [hrunning], fun _ => ?_, fun h => absurd rfl h⟩
        rw [if_neg (by simp [hreached, hsmall])]
        change (b.peer.see packet).received = _
        rw [Peer.see, if_neg hreached]
        exact List.reverse_cons

/-- An envelope holds what a message says itself, and the headers that the settings say. -/
structure Carries (e : Envelope) (m : Message) (settings : DeliverySettings) : Prop where
  body : e.body = m.body
  correlationId : e.correlationId = m.correlationId
  priority : e.priority = settings.priority
  deliveryMode : e.deliveryMode = settings.deliveryMode
  /-- In milliseconds, and no more than 64 bits hold. -/
  timeToLive : e.timeToLive.toNat = min settings.timeToLive (Nat.pow 2 64 - 1)

theorem carries_ofMessage_stamp (m : Message) (settings : DeliverySettings) :
    Carries (Envelope.ofMessage (m.stamp settings)) m settings where
  body := rfl
  correlationId := rfl
  priority := rfl
  deliveryMode := rfl
  timeToLive := by
    have hlt : min settings.timeToLive (Nat.pow 2 64 - 1) < Nat.pow 2 64 :=
      Nat.lt_of_le_of_lt (Nat.min_le_right _ _) (by decide)
    exact UInt64.toNat_ofNat_of_lt' hlt

/-- A publisher can be opened to every topic of a length that can be told and without wildcards.
Whatever it was called for, a message goes out in one packet, to that topic, with the headers of the
settings applied last instead of its own, and at the quality of their delivery mode. -/
theorem publishes_with_last_settings (topic : String) :
    ((∃ p, Bridge.openPublisher topic = .ok p) ↔
      (1 ≤ topic.utf8ByteSize ∧ topic.utf8ByteSize ≤ 65535) ∧
        ∀ c ∈ topic.toList, c ≠ '\x00' ∧ c ≠ '#' ∧ c ≠ '+') ∧
    ∀ p, Bridge.openPublisher topic = .ok p →
      ∀ (calls : List Publisher.Call) (b : Bridge) (m : Message), (Envelope.ofMessage m).Fits →
        ∃ quality payload e,
          b.send (p.after calls) m = b.request (.publish topic quality false payload) .progress ∧
          b.Publishes (.publish topic quality false payload) (b.send (p.after calls) m) ∧
          Envelope.ofBytes payload = .ok e ∧
          Carries e m (Publisher.lastSettings calls) ∧
          (quality = .atLeastOnce ↔ e.deliveryMode = .persistent) ∧
          (quality = .atMostOnce ↔ e.deliveryMode ≠ .persistent) := by
  refine ⟨openPublisher_isOk_iff topic, ?_⟩
  intro p hp calls b m hfits
  obtain rfl := eq_of_openPublisher hp
  have hstart : Publisher.InStep { topic } := rfl
  have hquality := hstart.after calls
  have hsettings : (Publisher.after { topic } calls).settings = Publisher.lastSettings calls :=
    Publisher.settings_after _ calls
  rw [Publisher.InStep, hsettings] at hquality
  -- from here on it does not matter by which calls the publisher came to these settings
  generalize Publisher.lastSettings calls = settings at hquality hsettings ⊢
  have hsend : b.send (Publisher.after { topic } calls) m = b.request
      (.publish topic (Quality.ofMode settings.deliveryMode) false
        (Envelope.ofMessage (m.stamp settings)).encode) .progress := by
    rw [Bridge.send, Publisher.packet, hsettings, hquality, Publisher.topic_after]
  have hstamped : (Envelope.ofMessage (m.stamp settings)).Fits := ⟨hfits.correlationId, hfits.body⟩
  refine ⟨_, _, _, hsend, ?_, (Envelope.reads hstamped).decode,
    carries_ofMessage_stamp m settings, ?_⟩
  · rw [hsend]
    exact b.request_publishes _ .progress
  · change (_ ↔ settings.deliveryMode = _) ∧ (_ ↔ settings.deliveryMode ≠ _)
    cases settings.deliveryMode <;> decide

/-- Settings that are applied twice, the second time with a time to live that is cut down, and a
message with other headers. -/
theorem publishes_with_last_settings_twice :
    let calls : List Publisher.Call :=
      [.apply { priority := 9 }, .send { body := .text "first" },
        .apply { timeToLive := Nat.pow 2 70, deliveryMode := .nonPersistent }]
    let m : Message := { body := .text "second", correlationId := some "id", priority := 1 }
    Bridge.openPublisher "orders" = .ok { topic := "orders" } ∧
      (¬ ∃ p, Bridge.openPublisher "orders/#" = .ok p) ∧
      (Envelope.ofMessage m).Fits ∧
      ∃ payload e,
        Bridge.Publishes {} (.publish "orders" .atMostOnce false payload)
          (Bridge.send {} (Publisher.after { topic := "orders" } calls) m) ∧
        Envelope.ofBytes payload = .ok e ∧
        Carries e m { timeToLive := Nat.pow 2 70, deliveryMode := .nonPersistent } := by
  intro calls m
  have hopen : Bridge.openPublisher "orders" = .ok { topic := "orders" } := rfl
  have hfits : (Envelope.ofMessage m).Fits := by
    refine ⟨?_, by change "second".utf8ByteSize < _; decide⟩
    intro id hid
    obtain rfl := Option.some.inj hid
    decide
  refine ⟨hopen, ?_, hfits, ?_⟩
  · rw [(publishes_with_last_settings "orders/#").1]
    rintro ⟨-, hnone⟩
    exact (hnone '#' (by decide)).2.1 rfl
  · obtain ⟨quality, payload, e, -, hpublishes, hread, hcarries, -, hquality⟩ :=
      (publishes_with_last_settings "orders").2 _ hopen calls {} m hfits
    obtain rfl : quality = .atMostOnce := hquality.mpr (by rw [hcarries.deliveryMode]; decide)
    exact ⟨payload, e, hpublishes, hread, hcarries⟩

end Sluice.Mqtt
