import Mathlib.Data.List.Induction
import Mathlib.Data.Nat.Find
import Sluice.Mqtt.Drive

/-! # When a drive gives up

The counter of a drive is the number of failures with which the events so far end, so the drive
ends at the first disconnection or at the failure that completes as many in a row as are put up
with, and a limit of zero is one of one. Until then every failure is followed by a pause.
-/

namespace Sluice.Mqtt

variable {limit : UInt32} {events first rest : List ClientEvent} {e : ClientEvent} {n count : Nat}

/-! ### Failures at the end -/

/-- The last events are so many failures. -/
def EndInFailures (events : List ClientEvent) (count : Nat) : Prop :=
  List.replicate count .failed <:+ events

instance (events : List ClientEvent) (count : Nat) : Decidable (EndInFailures events count) :=
  inferInstanceAs (Decidable (_ <:+ _))

theorem endInFailures_zero (events : List ClientEvent) : EndInFailures events 0 :=
  List.nil_suffix

theorem endInFailures_succ_iff :
    EndInFailures (events ++ [e]) (count + 1) ↔ e = .failed ∧ EndInFailures events count := by
  rw [EndInFailures, List.replicate_succ', EndInFailures]
  constructor
  · rintro ⟨before, h⟩
    rw [← List.append_assoc] at h
    obtain ⟨hevents, he⟩ := List.append_inj' h rfl
    exact ⟨(List.singleton_inj.mp he).symm, before, hevents⟩
  · rintro ⟨rfl, before, rfl⟩
    exact ⟨before, (List.append_assoc _ _ _).symm⟩

theorem EndInFailures.of_le {more : Nat} (h : EndInFailures events more) (hle : count ≤ more) :
    EndInFailures events count := by
  obtain ⟨extra, rfl⟩ := Nat.exists_eq_add_of_le' hle
  refine List.IsSuffix.trans ⟨List.replicate extra .failed, ?_⟩ h
  exact List.replicate_append_replicate

/-- A counter is exact: the events end in as many failures, and in no more. -/
structure Counts (events : List ClientEvent) (failures : UInt32) : Prop where
  ends : EndInFailures events failures.toNat
  most : ∀ count, EndInFailures events count → count ≤ failures.toNat

theorem counts_nil : Counts [] 0 where
  ends := endInFailures_zero []
  most count h := by
    rw [EndInFailures, List.suffix_nil, List.replicate_eq_nil_iff] at h
    exact Nat.le_of_eq h

/-- Any success starts the count anew. -/
theorem counts_append_success (he : e ≠ .failed) : Counts (events ++ [e]) 0 where
  ends := endInFailures_zero _
  most count h := by
    cases count with
    | zero => exact Nat.le_refl 0
    | succ count => exact absurd (endInFailures_succ_iff.mp h).1 he

theorem Counts.append_failure {failures : UInt32} (h : Counts events failures)
    (hroom : (failures + 1).toNat = failures.toNat + 1) :
    Counts (events ++ [.failed]) (failures + 1) where
  ends := by
    rw [hroom]
    exact endInFailures_succ_iff.mpr ⟨rfl, h.ends⟩
  most count hcount := by
    rw [hroom]
    cases count with
    | zero => exact Nat.zero_le _
    | succ count => exact Nat.succ_le_succ (h.most count (endInFailures_succ_iff.mp hcount).2)

namespace Drive

/-! ### The end of a drive -/

/-- How many failures in a row end a drive. -/
def patience (limit : UInt32) : Nat := max limit.toNat 1

/-- A drive has to end at an event: that is a disconnection, whoever of the two it comes from, or a
failure which completes as many in a row as are put up with. -/
def HasToEnd (limit : UInt32) (events : List ClientEvent) (n : Nat) : Prop :=
  n < events.length ∧
    (events[n]? = some (.sent .disconnect) ∨ events[n]? = some (.received .disconnect) ∨
      EndInFailures (events.take (n + 1)) (patience limit))

instance (limit : UInt32) (events : List ClientEvent) (n : Nat) :
    Decidable (HasToEnd limit events n) :=
  inferInstanceAs (Decidable (_ ∧ _))

/-- The first event at which a drive has to end. -/
structure EndsAt (limit : UInt32) (events : List ClientEvent) (n : Nat) : Prop where
  hasToEnd : HasToEnd limit events n
  first : ∀ m < n, ¬ HasToEnd limit events m

theorem patience_pos (limit : UInt32) : 0 < patience limit := Nat.le_max_right _ _

/-- A counter below the limit has room for one more failure. -/
theorem toNat_succ {failures : UInt32} (h : failures.toNat < patience limit) :
    (failures + 1).toNat = failures.toNat + 1 := by
  have hlimit : limit.toNat < 2 ^ 32 := limit.toNat_lt
  have hroom : failures.toNat + 1 < 2 ^ 32 := by
    unfold patience at h
    omega
  rw [UInt32.toNat_add]
  exact Nat.mod_eq_of_lt hroom

theorem patience_le_succ_iff {failures : UInt32} (h : failures.toNat < patience limit) :
    failures + 1 ≥ limit ↔ patience limit ≤ failures.toNat + 1 := by
  rw [ge_iff_le, UInt32.le_iff_toNat_le, toNat_succ h]
  unfold patience
  omega

theorem HasToEnd.append (h : HasToEnd limit first n) (rest : List ClientEvent) :
    HasToEnd limit (first ++ rest) n := by
  obtain ⟨hlt, hend⟩ := h
  refine ⟨by rw [List.length_append]; omega, ?_⟩
  rwa [List.getElem?_append_left hlt, List.take_append_of_le_length hlt]

theorem hasToEnd_last_iff :
    HasToEnd limit (events ++ [e]) events.length ↔
      e = .sent .disconnect ∨ e = .received .disconnect ∨
        EndInFailures (events ++ [e]) (patience limit) := by
  have htake : (events ++ [e]).take (events.length + 1) = events ++ [e] :=
    List.take_of_length_le (by simp)
  simp [HasToEnd, htake]

theorem run_append (limit : UInt32) (d : Drive) (first rest : List ClientEvent) :
    d.run limit ((first ++ rest).map ClientEvent.poll) =
      (d.run limit (first.map ClientEvent.poll)).run limit (rest.map ClientEvent.poll) := by
  rw [run, List.map_append, List.foldl_append]
  rfl

/-- While a drive does not have to end it goes on and counts exactly. -/
theorem run_of_lasting (h : ∀ n, ¬ HasToEnd limit events n) :
    ∃ failures, start.run limit (events.map ClientEvent.poll) = .running failures ∧
      failures.toNat < patience limit ∧ Counts events failures := by
  -- from the end: the count so far stays below the limit, so one more failure does not wrap around
  induction events using List.reverseRecOn with
  | nil => exact ⟨0, rfl, patience_pos limit, counts_nil⟩
  | append_singleton events e ih =>
      obtain ⟨failures, hrun, hlt, hcounts⟩ := ih fun n hn => h n (hn.append [e])
      have hlast := h events.length
      rw [hasToEnd_last_iff, not_or, not_or] at hlast
      rw [run_append, hrun]
      cases e with
      | failed =>
          have hnext := hcounts.append_failure (toNat_succ hlt)
          have hgoes : (failures + 1).toNat < patience limit := by
            by_contra hfull
            exact hlast.2.2 (hnext.ends.of_le (Nat.le_of_not_lt hfull))
          have hstep : ¬ failures + 1 ≥ limit := by
            rw [patience_le_succ_iff hlt, ← toNat_succ hlt]
            exact Nat.not_le_of_lt hgoes
          exact ⟨failures + 1, if_neg hstep, hgoes, hnext⟩
      | received traffic =>
          cases traffic with
          | disconnect => exact absurd rfl hlast.2.1
          | acknowledgement | other =>
              exact ⟨0, rfl, patience_pos limit, counts_append_success nofun⟩
      | sent traffic =>
          cases traffic with
          | disconnect => exact absurd rfl hlast.1
          | acknowledgement | other =>
              exact ⟨0, rfl, patience_pos limit, counts_append_success nofun⟩

theorem step_of_end {failures : UInt32} (hlt : failures.toNat < patience limit)
    (hcounts : Counts events failures) (h : HasToEnd limit (events ++ [e]) events.length) :
    step limit (.running failures) e.poll = .stopped := by
  rcases hasToEnd_last_iff.mp h with rfl | rfl | hend
  · rfl
  · rfl
  · obtain ⟨fewer, hfewer⟩ := Nat.exists_eq_add_of_le' (patience_pos limit)
    rw [hfewer] at hend
    obtain ⟨rfl, hbefore⟩ := endInFailures_succ_iff.mp hend
    have hfull : patience limit ≤ failures.toNat + 1 := by
      rw [hfewer]
      exact Nat.succ_le_succ (hcounts.most fewer hbefore)
    exact if_pos ((patience_le_succ_iff hlt).mpr hfull)

theorem run_stopped (limit : UInt32) (polls : List Poll) : run limit .stopped polls = .stopped := by
  induction polls with
  | nil => rfl
  | cons p polls ih => exact ih

/-! ### What is done meanwhile -/

/-- A poll, and the pause after it if it failed. -/
def retried (delay : Nat) : ClientEvent → List Act
  | .failed => [.polled .failed, .paused delay]
  | e => [.polled e]

theorem acts_nil (limit : UInt32) (delay : Nat) (d : Drive) : acts limit delay d [] = [] := by
  cases d <;> rfl

theorem acts_stopped (limit : UInt32) (delay : Nat) (events : List ClientEvent) :
    acts limit delay .stopped events = [] := by
  cases events <;> rfl

theorem acts_append (limit : UInt32) (delay : Nat) (d : Drive) (first rest : List ClientEvent) :
    acts limit delay d (first ++ rest) =
      acts limit delay d first ++
        acts limit delay (d.run limit (first.map ClientEvent.poll)) rest := by
  induction first generalizing d with
  | nil => rw [acts_nil]; rfl
  | cons e first ih =>
      cases d with
      | stopped => rw [acts_stopped, acts_stopped, run_stopped, acts_stopped]; rfl
      | running failures =>
          rw [List.cons_append, acts, acts, ih, List.append_assoc]
          rfl

theorem acts_of_going_on {failures next : UInt32} {delay : Nat}
    (h : step limit (.running failures) e.poll = .running next) :
    acts limit delay (.running failures) [e] = retried delay e := by
  rw [acts, acts_nil, pauses, h]
  cases e with
  | failed => rfl
  | received traffic => cases traffic <;> rfl
  | sent traffic => cases traffic <;> rfl

theorem acts_of_stopping {failures : UInt32} {delay : Nat}
    (h : step limit (.running failures) e.poll = .stopped) (rest : List ClientEvent) :
    acts limit delay (.running failures) (e :: rest) = [.polled e] := by
  rw [acts, h, acts_stopped, pauses, h]
  simp

theorem acts_of_lasting (delay : Nat) (h : ∀ n, ¬ HasToEnd limit events n) :
    start.acts limit delay events = events.flatMap (retried delay) := by
  induction events using List.reverseRecOn with
  | nil => rfl
  | append_singleton events e ih =>
      have hbefore : ∀ n, ¬ HasToEnd limit events n := fun n hn => h n (hn.append [e])
      obtain ⟨failures, hrun, -⟩ := run_of_lasting hbefore
      obtain ⟨next, hnext, -⟩ := run_of_lasting h
      rw [run_append, hrun] at hnext
      rw [acts_append, ih hbefore, hrun, acts_of_going_on hnext, List.flatMap_append,
        List.flatMap_singleton]

/-- What stands before the first end is a list over which the drive goes on. -/
theorem EndsAt.split (h : EndsAt limit events n) :
    ∃ before e rest, events = before ++ e :: rest ∧ before = events.take n ∧ events[n]? = some e ∧
      (∀ m, ¬ HasToEnd limit before m) ∧ HasToEnd limit (before ++ [e]) before.length := by
  have hlt := h.hasToEnd.1
  have hlength : (events.take n).length = n := List.length_take_of_le (Nat.le_of_lt hlt)
  refine ⟨events.take n, events[n], events.drop (n + 1), ?_, rfl, List.getElem?_eq_getElem hlt,
    ?_, ?_⟩
  · rw [List.getElem_cons_drop, List.take_append_drop]
  · intro m hm
    have hwhole := hm.append (events.drop n)
    rw [List.take_append_drop] at hwhole
    exact h.first m (hlength ▸ hm.1) hwhole
  · obtain ⟨-, hend⟩ := h.hasToEnd
    rw [List.getElem?_eq_getElem hlt, Option.some_inj, Option.some_inj] at hend
    rwa [hasToEnd_last_iff, List.take_append_getElem]

theorem run_of_endsAt (h : EndsAt limit events n) :
    start.run limit (events.map ClientEvent.poll) = .stopped := by
  obtain ⟨before, e, rest, rfl, -, -, hlasting, hend⟩ := h.split
  obtain ⟨failures, hrun, hlt, hcounts⟩ := run_of_lasting hlasting
  rw [run_append, hrun]
  change run limit (step limit (.running failures) e.poll) _ = _
  rw [step_of_end hlt hcounts hend, run_stopped]

theorem acts_of_endsAt (delay : Nat) (h : EndsAt limit events n) (he : events[n]? = some e) :
    start.acts limit delay events = (events.take n).flatMap (retried delay) ++ [.polled e] := by
  obtain ⟨before, e', rest, hevents, hbefore, he', hlasting, hend⟩ := h.split
  obtain rfl := Option.some.inj (he.symm.trans he')
  obtain ⟨failures, hrun, hlt, hcounts⟩ := run_of_lasting hlasting
  rw [← hbefore, hevents, acts_append, hrun, acts_of_lasting delay hlasting,
    acts_of_stopping (step_of_end hlt hcounts hend)]

theorem exists_endsAt (h : HasToEnd limit events n) : ∃ m, EndsAt limit events m := by
  classical
  have hexists : ∃ m, HasToEnd limit events m := ⟨n, h⟩
  exact ⟨Nat.find hexists, Nat.find_spec hexists, fun m hm => Nat.find_min hexists hm⟩

/-- Whatever the client has to tell, a drive has stopped exactly if one of the events was a
disconnection or completed as many failures in a row as are put up with, one at least. It polls up
to the first such event and no further, and pauses after every failure but one that ends it. Until
then its counter is the number of failures with which the events end; it is never beyond the limit
and has room for the next failure. -/
theorem gives_up_exactly (limit : UInt32) (delay : Nat) (events : List ClientEvent) :
    (start.run limit (events.map ClientEvent.poll) = .stopped ↔
        ∃ n, HasToEnd limit events n) ∧
      (∀ n e, EndsAt limit events n → events[n]? = some e →
        start.acts limit delay events =
          (events.take n).flatMap (retried delay) ++ [.polled e]) ∧
      ((∀ n, ¬ HasToEnd limit events n) →
        start.acts limit delay events = events.flatMap (retried delay)) ∧
      ∀ failures, start.run limit (events.map ClientEvent.poll) = .running failures →
        Counts events failures ∧ failures ≤ limit ∧
          (failures + 1).toNat = failures.toNat + 1 := by
  have hstopped : start.run limit (events.map ClientEvent.poll) = .stopped ↔
      ∃ n, HasToEnd limit events n := by
    constructor
    · intro hrun
      by_contra hnone
      obtain ⟨failures, hgoes, -⟩ := run_of_lasting (not_exists.mp hnone)
      rw [hrun] at hgoes
      cases hgoes
    · rintro ⟨n, hn⟩
      obtain ⟨m, hm⟩ := exists_endsAt hn
      exact run_of_endsAt hm
  refine ⟨hstopped, fun n e hn he => acts_of_endsAt delay hn he, acts_of_lasting delay, ?_⟩
  intro failures hrun
  have hlasting : ∀ n, ¬ HasToEnd limit events n := by
    intro n hn
    rw [hstopped.mpr ⟨n, hn⟩] at hrun
    cases hrun
  obtain ⟨failures', hrun', hlt, hcounts⟩ := run_of_lasting hlasting
  obtain rfl := Drive.running.inj (hrun.symm.trans hrun')
  refine ⟨hcounts, ?_, toNat_succ hlt⟩
  rw [UInt32.le_iff_toNat_le]
  unfold patience at hlt
  omega

/-- Two failures in a row are too many: the first one is forgotten with the confirmation, and what
comes behind the third is not looked at. -/
theorem gives_up_exactly_recovered :
    let events : List ClientEvent :=
      [.failed, .received .acknowledgement, .failed, .failed, .sent .disconnect]
    EndsAt 2 events 3 ∧ start.run 2 (events.map ClientEvent.poll) = .stopped ∧
      start.acts 2 1000 events = [.polled .failed, .paused 1000,
        .polled (.received .acknowledgement), .polled .failed, .paused 1000, .polled .failed] := by
  intro events
  have hend : HasToEnd 2 events 3 := by decide
  have hfirst : ∀ m < 3, ¬ HasToEnd 2 events m := by decide
  have hends : EndsAt 2 events 3 := ⟨hend, hfirst⟩
  obtain ⟨hstopped, hacts, -, -⟩ := gives_up_exactly 2 1000 events
  exact ⟨hends, hstopped.mpr ⟨3, hend⟩, hacts 3 .failed hends rfl⟩

end Drive

end Sluice.Mqtt
