import Mathlib.Algebra.Order.Floor.Div
import Mathlib.Order.Bounds.Basic
import Sluice.Admission

/-! # How long a wait for capacity takes

A wait that nobody ends looks at the depth at once and then after every poll interval, until a look
fails, or finds the depth below the mark, or comes when the time is up. So the number of looks, the
time that the wait takes and its result follow from what the looks find. The broker may answer
differently at different times, but takes no time to do so.
-/

namespace Sluice

/-- Somebody who waits while nobody raises the signal: the time, and the calls that were made, each
with its time. -/
structure Vigil where
  now : Nat
  calls : List (Nat × Call) := []

namespace Vigil

/-- A call was made. -/
def called (s : Vigil) (c : Call) : Vigil := { s with calls := s.calls ++ [(s.now, c)] }

def rested (s : Vigil) (millis : Nat) : Vigil := { s with now := s.now + millis }

/-- Only rests take time, and no rest is ended. -/
def answer (broker : Nat → (c : Call) → c.Reply) (others : (r : Request) → r.Answer) :
    (r : Request) → StateM Vigil r.Answer
  | .call c => fun s => (broker s.now c, s.called c)
  | .clock => fun s => (s.now, s)
  | .isShutDown => fun s => (false, s)
  | .rest millis _ => fun s => (false, s.rested millis)
  | r => fun s => (others r, s)

/-- Work is carried out to the end. -/
def run {α : Type} (broker : Nat → (c : Call) → c.Reply) (others : (r : Request) → r.Answer)
    (w : Work α) (s : Vigil) : α × Vigil :=
  w.answeredIn (m := StateM Vigil) (answer broker others) s

/-- The looks at a depth from one to another, an interval apart. -/
def looks (b : Handle .browser) (start interval first count : Nat) : List (Nat × Call) :=
  (List.range' first count).map fun k => (start + k * interval, .browse b)

theorem looks_succ (b : Handle .browser) (start interval first count : Nat) :
    looks b start interval first (count + 1) =
      (start + first * interval, .browse b) :: looks b start interval (first + 1) count := by
  rw [looks, List.range'_succ, List.map_cons, looks]

/-- A browser was opened, the depth was looked at once and again after a number of intervals each,
and the browser was closed. -/
def watched (s : Vigil) (session : Handle .session) (destination : Destination)
    (b : Handle .browser) (interval intervals : Nat) : Vigil where
  now := s.now + intervals * interval
  calls := s.calls ++ (s.now, .createBrowser session destination) ::
    looks b s.now interval 0 (intervals + 1) ++ [(s.now + intervals * interval, .closeBrowser b)]

/-- Work ends with an assertion about its result and what there is then. -/
def Ends {α : Type} (broker : Nat → (c : Call) → c.Reply) (others : (r : Request) → r.Answer)
    (Q : α → Vigil → Prop) (w : Work α) (s : Vigil) : Prop :=
  Q (s.run broker others w).1 (s.run broker others w).2

section Ends

variable {α β : Type} {broker : Nat → (c : Call) → c.Reply} {others : (r : Request) → r.Answer}
  {Q : β → Vigil → Prop} {s : Vigil}

theorem ends_done {x : β} (h : Q x s) : Ends broker others Q (Script.done x) s := h

theorem Ends.mono {Q' : β → Vigil → Prop} {w : Work β} (h : Ends broker others Q' w s)
    (hpost : ∀ x s', Q' x s' → Q x s') : Ends broker others Q w s :=
  hpost _ _ h

theorem Ends.bind {w : Work α} {f : α → Work β}
    (h : Ends broker others (fun x s' => Ends broker others Q (f x) s') w s) :
    Ends broker others Q (w >>= f) s := by
  rw [Ends, run, Script.answeredIn_bind]
  exact h

theorem ends_call {c : Call} {f : c.Reply → Work β}
    (h : Ends broker others Q (f (broker s.now c)) (s.called c)) :
    Ends broker others Q (Work.call c >>= f) s :=
  h

theorem ends_clock {f : Nat → Work β} (h : Ends broker others Q (f s.now) s) :
    Ends broker others Q (Work.clock >>= f) s :=
  h

theorem ends_isShutDown {f : Bool → Work β} (h : Ends broker others Q (f false) s) :
    Ends broker others Q (Work.isShutDown >>= f) s :=
  h

theorem ends_enlist {f : Nat → Work β} (h : ∀ ticket, Ends broker others Q (f ticket) s) :
    Ends broker others Q (Work.enlist >>= f) s :=
  h _

theorem ends_rest {millis ticket : Nat} {f : Bool → Work β}
    (h : Ends broker others Q (f false) (s.rested millis)) :
    Ends broker others Q (Work.restUnlessInterrupted millis ticket >>= f) s :=
  h

end Ends

end Vigil

open Vigil

/-- The answers of somebody who knows nothing. -/
def Request.blank : (r : Request) → r.Answer
  | .lookup name _ => .error (.notBound name)
  | .call _ => .error .clientGone
  | .clock => (0 : Nat)
  | .isShutDown => false
  | .shutDown => ()
  | .interrupt => ()
  | .enlist => (0 : Nat)
  | .rest _ _ => false
  | .pause => ()
  | .lock => ()
  | .unlock => ()
  | .manager => ({} : Manager)
  | .keep _ => ()
  | .delayOf _ => (none : Option Nat)
  | .takeFailure _ => false
  | .record _ => ()
  | .shutDownAsPlanned => ()

namespace AdmissionConfig

/-- Whether a look finds a depth that lets nobody through. -/
def Blocks (c : AdmissionConfig) (look : Except BrokerError Nat) : Prop :=
  ∃ depth : Nat, look = .ok depth ∧ max c.highWaterMark.toInt 1 ≤ depth

/-- What a wait comes to whose last look, after a number of poll intervals, lets it end. -/
def verdict (c : AdmissionConfig) (intervals : Nat) :
    Except BrokerError Nat → Except AdmissionError Admission
  | .error cause => .error (.inspection cause)
  | .ok _ => .ok (.admitted (intervals * c.pollInterval))

/-- How a wait ends whose last look comes after a number of poll intervals. -/
inductive Concludes (c : AdmissionConfig) (depths : Nat → Except BrokerError Nat) (k : Nat) :
    Except AdmissionError Admission → Prop
  /-- The depth cannot be looked at, or lets somebody through. -/
  | ended (hfree : ¬ c.Blocks (depths k)) : Concludes c depths k (c.verdict k (depths k))
  /-- The time is up. -/
  | late {depth : Nat} (hdepth : depths k = .ok depth) (hblocks : c.Blocks (depths k))
      (hlate : c.timeout ≤ k * c.pollInterval) : Concludes c depths k (.error (.timedOut depth))

variable {c : AdmissionConfig} {depths : Nat → Except BrokerError Nat}
  {result : Except AdmissionError Admission}

/-- Settings that are in order look at the depth from time to time. -/
theorem pollInterval_pos {config : Config} (hvalid : config.validate = .ok ())
    (henabled : config.admission.isEnabled = true) : 0 < config.admission.pollInterval := by
  by_contra hpoll
  have hnone : config.admission.pollInterval = 0 := Nat.eq_zero_of_not_pos hpoll
  simp only [Config.validate, henabled, hnone, decide_true, Bool.and_self, if_true] at hvalid
  split_ifs at hvalid

theorem blocks_ok_iff {depth : Nat} : c.Blocks (.ok depth) ↔ ¬ depth < c.threshold := by
  rw [threshold, Blocks]
  simp only [Except.ok.injEq, exists_eq_left']
  omega

/-- There is time left after a number of poll intervals exactly if fewer fill it. -/
theorem lt_timeout_iff (hpoll : 0 < c.pollInterval) {k : Nat} :
    k * c.pollInterval < c.timeout ↔ k < c.timeout ⌈/⌉ c.pollInterval := by
  rw [← Nat.not_le, ← Nat.not_le, ceilDiv_le_iff_le_mul hpoll, Nat.mul_comm]

/-- The last look comes when the time is up, or less than an interval later. -/
theorem timeout_le_ceilDiv (hpoll : 0 < c.pollInterval) :
    c.timeout ≤ c.timeout ⌈/⌉ c.pollInterval * c.pollInterval ∧
      c.timeout ⌈/⌉ c.pollInterval * c.pollInterval < c.timeout + c.pollInterval := by
  constructor
  · rw [Nat.mul_comm]
    exact le_smul_ceilDiv hpoll
  · rw [Nat.ceilDiv_eq_add_pred_div]
    have hle := Nat.div_mul_le_self (c.timeout + c.pollInterval - 1) c.pollInterval
    omega

/-- A wait ends with a look after `k` poll intervals. At all looks before it there was time left,
and they let nobody through; the first of these calls was already made. -/
structure Looked (c : AdmissionConfig) (depths : Nat → Except BrokerError Nat)
    (b : Handle .browser) (start first : Nat) (calls : List (Nat × Call))
    (result : Except AdmissionError Admission) (s : Vigil) (k : Nat) : Prop where
  le : first ≤ k
  concludes : c.Concludes depths k result
  blocked : ∀ j, first ≤ j → j < k → c.Blocks (depths j) ∧ j * c.pollInterval < c.timeout
  now : s.now = start + k * c.pollInterval
  calls : s.calls = calls ++ Vigil.looks b start c.pollInterval (first + 1) (k - first)

namespace Looked

variable {b : Handle .browser} {start first : Nat} {calls : List (Nat × Call)} {s : Vigil}

/-- The look that was made is the last one. -/
theorem here (h : c.Concludes depths first result) (hnow : s.now = start + first * c.pollInterval) :
    c.Looked depths b start first s.calls result s first where
  le := Nat.le_refl first
  concludes := h
  blocked j hfirst hlast := absurd hfirst (Nat.not_le.mpr hlast)
  now := hnow
  calls := by simp [Vigil.looks]

theorem low {depth : Nat} (hdepth : depths first = .ok depth) (hlow : depth < c.threshold)
    (hnow : s.now = start + first * c.pollInterval) :
    c.Looked depths b start first s.calls (.ok (.admitted (s.now - start))) s first := by
  have hfree : ¬ c.Blocks (depths first) := fun h => blocks_ok_iff.mp (hdepth ▸ h) hlow
  have hconcludes := Concludes.ended hfree
  rw [hdepth, verdict, ← Nat.add_sub_cancel_left (n := start) (m := first * c.pollInterval),
    ← hnow] at hconcludes
  exact .here hconcludes hnow

theorem failed {cause : BrokerError} (hdepth : depths first = .error cause)
    (hnow : s.now = start + first * c.pollInterval) :
    c.Looked depths b start first s.calls (.error (.inspection cause)) s first := by
  have hfree : ¬ c.Blocks (depths first) := by
    rintro ⟨depth, hok, -⟩
    simp [hdepth] at hok
  have hconcludes := Concludes.ended hfree
  rw [hdepth, verdict] at hconcludes
  exact .here hconcludes hnow

/-- The wait goes on behind a look that lets nobody through while there is time left. -/
theorem after {k : Nat} (hblocks : c.Blocks (depths first))
    (htime : first * c.pollInterval < c.timeout)
    (h : c.Looked depths b start (first + 1)
      (calls ++ [(start + (first + 1) * c.pollInterval, .browse b)]) result s k) :
    c.Looked depths b start first calls result s k where
  le := Nat.le_of_succ_le h.le
  concludes := h.concludes
  blocked j hfirst hlast := by
    rcases Nat.eq_or_lt_of_le hfirst with rfl | hlater
    · exact ⟨hblocks, htime⟩
    · exact h.blocked j hlater hlast
  now := h.now
  calls := by
    have hcount : k - first = k - (first + 1) + 1 := by
      have hle := h.le
      omega
    rw [h.calls, hcount, looks_succ, List.append_assoc, List.singleton_append]

end Looked

/-! ### Carrying the wait out -/

section Carried

variable {broker : Nat → (c : Call) → c.Reply} {others : (r : Request) → r.Answer}
  {b : Handle .browser} {ticket start : Nat}

/-- From a look that finds some depth to the end of the wait. It ends by the clock before the rests
run out. -/
theorem ends_watch (hpoll : 0 < c.pollInterval)
    (hdepths : ∀ k, broker (start + k * c.pollInterval) (.browse b) = depths k)
    {rests depth first : Nat} {s : Vigil} (hrests : c.timeout ≤ first + rests)
    (hdepth : depths first = .ok depth) (hnow : s.now = start + first * c.pollInterval) :
    Ends broker others (fun result s' => ∃ k, c.Looked depths b start first s.calls result s' k)
      (c.watch b ticket start rests depth) s := by
  have hdeadline : ∀ {first : Nat} {s : Vigil}, s.now = start + first * c.pollInterval →
      (s.now < start + c.timeout ↔ first * c.pollInterval < c.timeout) := by
    intro first s hnow
    rw [hnow, Nat.add_lt_add_iff_left]
  -- on the number of rests; what has passed of the time is a multiple of the poll interval
  induction rests generalizing first depth s with
  | zero =>
      unfold watch
      split
      next hlow => exact ends_clock ⟨first, .low hdepth hlow hnow⟩
      next hhigh =>
        have hblocks : c.Blocks (depths first) := hdepth ▸ blocks_ok_iff.mpr hhigh
        -- as many intervals have passed as the timeout has milliseconds
        have hlate : c.timeout ≤ first * c.pollInterval :=
          Nat.le_trans hrests (Nat.le_mul_of_pos_right _ hpoll)
        refine ends_clock ?_
        rw [if_neg (mt (hdeadline hnow).mp (Nat.not_lt.mpr hlate))]
        exact ⟨first, .here (.late hdepth hblocks hlate) hnow⟩
  | succ rests ih =>
      unfold watch
      split
      next hlow => exact ends_clock ⟨first, .low hdepth hlow hnow⟩
      next hhigh =>
        have hblocks : c.Blocks (depths first) := hdepth ▸ blocks_ok_iff.mpr hhigh
        refine ends_clock ?_
        by_cases htime : first * c.pollInterval < c.timeout
        · have hnext : s.now + c.pollInterval = start + (first + 1) * c.pollInterval := by
            rw [hnow, Nat.succ_mul, Nat.add_assoc]
          have hreply : broker (s.rested c.pollInterval).now (.browse b) = depths (first + 1) :=
            (congrArg (broker · (.browse b)) hnext).trans (hdepths _)
          have hcalls : ((s.rested c.pollInterval).called (.browse b)).calls =
              s.calls ++ [(start + (first + 1) * c.pollInterval, .browse b)] := by
            rw [← hnext]
            rfl
          rw [if_pos ((hdeadline hnow).mpr htime)]
          refine ends_rest (ends_call ?_)
          rw [hreply]
          cases hlook : depths (first + 1) with
          | error cause => exact ⟨first + 1, .after hblocks htime (hcalls ▸ .failed hlook hnext)⟩
          | ok depth =>
              refine (ih (by omega) hlook hnext).mono ?_
              rintro result s' ⟨k, h⟩
              exact ⟨k, .after hblocks htime (hcalls ▸ h)⟩
        · rw [if_neg (mt (hdeadline hnow).mp htime)]
          exact ⟨first, .here (.late hdepth hblocks (Nat.not_lt.mp htime)) hnow⟩

theorem ends_awaitBelowMark (hpoll : 0 < c.pollInterval) {s : Vigil}
    (hdepths : ∀ k, broker (s.now + k * c.pollInterval) (.browse b) = depths k) :
    Ends broker others
      (fun result s' => ∃ k,
        c.Looked depths b s.now 0 (s.calls ++ [(s.now, .browse b)]) result s' k)
      (c.awaitBelowMark b) s := by
  have hnow : s.now = s.now + 0 * c.pollInterval := by rw [Nat.zero_mul, Nat.add_zero]
  have hreply : broker s.now (.browse b) = depths 0 :=
    (congrArg (broker · (.browse b)) hnow).trans (hdepths 0)
  unfold awaitBelowMark
  refine ends_enlist fun ticket => ends_isShutDown ?_
  refine ends_clock (ends_call ?_)
  rw [hreply]
  cases hlook : depths 0 with
  | error cause => exact ⟨0, .failed (s := s.called (.browse b)) hlook hnow⟩
  | ok depth =>
      exact ends_watch (s := s.called (.browse b)) hpoll hdepths (Nat.le_add_left _ _) hlook hnow

/-- The wait ends with a look that lets it end, and is over when the browser is closed. -/
theorem exists_concludes_awaitCapacity (others : (r : Request) → r.Answer)
    (hpoll : 0 < c.pollInterval) (henabled : c.isEnabled = true) {s : Vigil}
    {session : Handle .session} {destination : Destination}
    (hbrowser : broker s.now (.createBrowser session destination) = .ok (some b))
    (hdepths : ∀ k, broker (s.now + k * c.pollInterval) (.browse b) = depths k) :
    ∃ k result, c.Concludes depths k result ∧
      (∀ j < k, c.Blocks (depths j) ∧ j * c.pollInterval < c.timeout) ∧
      s.run broker others (c.awaitCapacity session destination) =
        (result, s.watched session destination b c.pollInterval k) := by
  suffices hends : Ends broker others
      (fun result s' => ∃ k, c.Concludes depths k result ∧
        (∀ j < k, c.Blocks (depths j) ∧ j * c.pollInterval < c.timeout) ∧
        s' = s.watched session destination b c.pollInterval k)
      (c.awaitCapacity session destination) s by
    obtain ⟨k, hconcludes, hblocked, hs⟩ := hends
    exact ⟨k, _, hconcludes, hblocked, Prod.ext rfl hs⟩
  unfold awaitCapacity
  rw [henabled]
  refine ends_isShutDown (ends_call ?_)
  rw [hbrowser]
  refine Ends.bind ((ends_awaitBelowMark
    (s := s.called (.createBrowser session destination)) hpoll hdepths).mono ?_)
  rintro result s' ⟨k, hlooked⟩
  have hblocked : ∀ j < k, c.Blocks (depths j) ∧ j * c.pollInterval < c.timeout :=
    fun j => hlooked.blocked j (Nat.zero_le j)
  refine ends_call (ends_done ⟨k, hlooked.concludes, hblocked, ?_⟩)
  have hnow : s'.now = s.now + k * c.pollInterval := hlooked.now
  rw [called, hlooked.calls, hnow, watched, looks_succ, called, Nat.zero_mul]
  simp only [List.append_assoc, List.cons_append, List.nil_append, Nat.sub_zero, Nat.add_zero]

end Carried

/-- A wait that nobody ends comes to what the first look finds that fails or lets it through, among
the looks at once and after every poll interval up to the first one at which the time is up. If all
of these let nobody through, it comes to what the last one finds. There are no other looks, and the
browser is closed in either case. -/
theorem awaitCapacity_punctual {config : Config} {broker : Nat → (c : Call) → c.Reply}
    (others : (r : Request) → r.Answer) (s : Vigil) {session : Handle .session}
    {destination : Destination} {b : Handle .browser} {depths : Nat → Except BrokerError Nat}
    (hvalid : config.validate = .ok ()) (henabled : config.admission.isEnabled = true)
    (hbrowser : broker s.now (.createBrowser session destination) = .ok (some b))
    (hdepths : ∀ k,
      broker (s.now + k * config.admission.pollInterval) (.browse b) = depths k) :
    let c := config.admission
    let last := c.timeout ⌈/⌉ c.pollInterval
    let ended := s.run broker others (c.awaitCapacity session destination)
    (∀ k, IsLeast {k | k ≤ last ∧ ¬ c.Blocks (depths k)} k →
        ended = (c.verdict k (depths k), s.watched session destination b c.pollInterval k)) ∧
      ((∀ k ≤ last, c.Blocks (depths k)) →
        ∃ depth, depths last = .ok depth ∧
          ended = (.error (.timedOut depth),
            s.watched session destination b c.pollInterval last)) ∧
      c.timeout ≤ last * c.pollInterval ∧
      last * c.pollInterval < c.timeout + c.pollInterval := by
  intro c last ended
  have hpoll : 0 < c.pollInterval := pollInterval_pos hvalid henabled
  obtain ⟨k, result, hconcludes, hblocked, hrun⟩ :=
    exists_concludes_awaitCapacity others hpoll henabled hbrowser hdepths
  have hle : k ≤ last := by
    by_contra hlt
    exact Nat.lt_irrefl last ((lt_timeout_iff hpoll).mp (hblocked last (Nat.not_le.mp hlt)).2)
  have hlast : c.timeout ≤ k * c.pollInterval → k = last := fun hlate =>
    Nat.le_antisymm hle (Nat.not_lt.mp (mt (lt_timeout_iff hpoll).mpr (Nat.not_lt.mpr hlate)))
  refine ⟨fun first hfirst => ?_, fun hall => ?_, timeout_le_ceilDiv hpoll⟩
  · obtain ⟨⟨hfirst, hfree⟩, hleast⟩ := hfirst
    have hnot : ¬ first < k := fun hlt => hfree (hblocked first hlt).1
    cases hconcludes with
    | ended hfree' =>
        obtain rfl : first = k := Nat.le_antisymm (hleast ⟨hle, hfree'⟩) (Nat.not_lt.mp hnot)
        exact hrun
    | late _ hblocks hlate =>
        obtain rfl : first = k :=
          Nat.le_antisymm (Nat.le_trans hfirst (hlast hlate).ge) (Nat.not_lt.mp hnot)
        exact absurd hblocks hfree
  · cases hconcludes with
    | ended hfree => exact absurd (hall k hle) hfree
    | late hdepth _ hlate =>
        obtain rfl : k = last := hlast hlate
        exact ⟨_, hdepth, hrun⟩

/-- The queue is drained between the two looks behind the last of which the time is up: the wait
takes longer than the time that was given. -/
theorem awaitCapacity_punctual_overshoot :
    let config : Config :=
      { valueKey := some "order"
        destinationName := some "orders"
        admission := { highWaterMark := 0, timeout := 4, pollInterval := 3 } }
    let orders : Destination := .queue "orders"
    let broker : Nat → (c : Call) → c.Reply := fun now c =>
      match c with
      | .createBrowser _ _ => .ok (some ⟨7⟩)
      | .browse _ => .ok (if now < 16 then 2 else 0 : Nat)
      | _ => .error .clientGone
    Vigil.run broker Request.blank (config.admission.awaitCapacity ⟨5⟩ orders) ⟨10, []⟩ =
      (.ok (.admitted 6),
        ⟨16, [(10, .createBrowser ⟨5⟩ orders), (10, .browse ⟨7⟩), (13, .browse ⟨7⟩),
          (16, .browse ⟨7⟩), (16, .closeBrowser ⟨7⟩)]⟩) := by
  intro config orders broker
  let depths : Nat → Except BrokerError Nat := fun k => .ok (if 10 + k * 3 < 16 then 2 else 0)
  have hvalid : config.validate = .ok () := by decide
  have hbrowser : broker 10 (.createBrowser ⟨5⟩ orders) = .ok (some ⟨7⟩) := rfl
  have hdepths : ∀ k, broker (10 + k * config.admission.pollInterval) (.browse ⟨7⟩) = depths k :=
    fun _ => rfl
  obtain ⟨hends, -⟩ :=
    awaitCapacity_punctual Request.blank ⟨10, []⟩ hvalid (by decide) hbrowser hdepths
  refine hends 2 ⟨⟨by decide, ?_⟩, ?_⟩
  · exact fun hblocks => blocks_ok_iff.mp hblocks (by decide)
  · rintro k ⟨-, hfree⟩
    by_contra hlt
    refine hfree (blocks_ok_iff.mpr ?_)
    rw [if_pos (by omega)]
    decide

end AdmissionConfig

end Sluice
