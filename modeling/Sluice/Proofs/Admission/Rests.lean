import Sluice.Admission
import Sluice.Proofs.Task.Heeding

/-! # How a wait for capacity rests

Seen from its script, a wait for capacity has nothing to do with the lock, rests only with the
ticket that it drew before it looked at the signal, and gives up when a rest is ended early: it
closes its browser and is interrupted. Of everything else that it does only this depends on what it
learns of the signal.
-/

namespace Sluice

/-- Settings with which everybody waits for a queue to be empty. -/
def AdmissionConfig.narrow : AdmissionConfig :=
  { highWaterMark := 0, timeout := 10, pollInterval := 5 }

namespace Work

variable {c : AdmissionConfig} {rounds : Nat}

/-- A wait rests, and lets through if the rest is ended early. -/
inductive LetsThrough (c : AdmissionConfig) : Work (Except AdmissionError Admission) → Prop
  | rest (htimeout : 0 < c.timeout) (ticket : Nat)
      {f : Bool → Work (Except AdmissionError Admission)}
      (hf : f true = Script.done (.ok .interrupted)) :
      LetsThrough c (Work.restUnlessInterrupted c.pollInterval ticket >>= f)

/-- A wait rests, and closes its browser before it lets through if the rest is ended early. -/
inductive GivesUp (c : AdmissionConfig) : Work (Except AdmissionError Admission) → Prop
  | rest (htimeout : 0 < c.timeout) (ticket : Nat) (browser : Handle .browser)
      {f : Bool → Work (Except AdmissionError Admission)}
      (hf : f true =
        (Work.call (.closeBrowser browser) >>= fun _ => Script.done (.ok .interrupted))) :
      GivesUp c (Work.restUnlessInterrupted c.pollInterval ticket >>= f)

theorem LetsThrough.givesUp {w : Work (Except AdmissionError Admission)} (h : w.LetsThrough c)
    (browser : Handle .browser) :
    (w >>= fun result => Work.call (.closeBrowser browser) >>= fun _ =>
      Script.done result).GivesUp c := by
  cases h with
  | @rest htimeout ticket f hf =>
      refine .rest htimeout ticket browser
        (f := fun early => f early >>= fun result => Work.call (.closeBrowser browser) >>= fun _ =>
          Script.done result) ?_
      rw [hf]
      rfl

/-- Whoever rests and gives up when the rest is ended closes a browser then. -/
theorem GivesUp.early {millis : Nat} {ticket : Option Nat}
    {next : Bool → Work (Except AdmissionError Admission)}
    (h : GivesUp c (Script.ask (.rest millis ticket) next)) :
    ∃ browser, next true =
      (Work.call (.closeBrowser browser) >>= fun _ => Script.done (.ok .interrupted)) := by
  cases h with
  | rest htimeout ticket browser hf => exact ⟨browser, hf⟩

/-! ### Resting with tickets that were drawn -/

theorem guarded_watch {browser : Handle .browser} {ticket start rests depth : Nat}
    (hticket : ticket < rounds) (hrests : rests ≤ c.timeout) :
    (c.watch browser ticket start rests depth).Guarded rounds (LetsThrough c) := by
  -- on the number of rests that are left, each of which is for the ticket that was drawn
  induction rests generalizing depth with
  | zero =>
      unfold AdmissionConfig.watch
      split
      next => exact guarded_ask rfl (by simp) fun _ => guarded_done _
      next =>
        refine guarded_ask rfl (by simp) fun time => ?_
        split <;> exact guarded_done _
  | succ rests ih =>
      have htimeout : 0 < c.timeout := Nat.lt_of_lt_of_le rests.succ_pos hrests
      unfold AdmissionConfig.watch
      split
      next => exact guarded_ask rfl (by simp) fun _ => guarded_done _
      next =>
        refine guarded_ask rfl (by simp) fun time => ?_
        split
        next =>
          refine guarded_rest hticket (.rest htimeout ticket rfl) fun early => ?_
          cases early with
          | true => exact guarded_done _
          | false =>
              refine guarded_ask rfl (by simp) fun reply => ?_
              cases reply with
              | error cause => exact guarded_done _
              | ok depth => exact ih (Nat.le_of_succ_le hrests)
        next => exact guarded_done _

theorem guarded_awaitBelowMark (browser : Handle .browser) :
    (c.awaitBelowMark browser).Guarded rounds (LetsThrough c) := by
  refine guarded_enlist (fun ticket => ?_) fun ticket hticket => ?_
  · refine honours_ask (by simp [Agreement.dismissed]) fun down hdown => ?_
    obtain rfl : down = true := hdown
    exact honours_done trivial
  · refine guarded_ask rfl (by simp) fun down => ?_
    cases down with
    | true => exact guarded_done _
    | false =>
        refine guarded_ask rfl (by simp) fun start => guarded_ask rfl (by simp) fun reply => ?_
        cases reply with
        | error cause => exact guarded_done _
        | ok depth => exact guarded_watch hticket (Nat.le_refl _)

/-- Whoever waits rests with a ticket that was drawn, and gives up if the rest is ended early. -/
theorem guarded_awaitCapacity (session : Handle .session) (d : Destination) :
    (c.awaitCapacity session d).Guarded rounds (GivesUp c) := by
  unfold AdmissionConfig.awaitCapacity
  split
  next => exact guarded_done _
  next =>
    refine guarded_ask rfl (by simp) fun down => ?_
    cases down with
    | true => exact guarded_done _
    | false =>
        refine guarded_ask rfl (by simp) fun reply => ?_
        cases reply with
        | error cause => exact guarded_done _
        | ok found =>
            cases found with
            | none => exact guarded_done _
            | some w =>
                refine (guarded_awaitBelowMark w).bind (fun _ h => h.givesUp w)
                  (fun result => ?_)
                  fun result => guarded_ask rfl (by simp) fun _ => guarded_done _
                exact honours_ask (by simp [Agreement.dismissed]) fun _ _ => honours_done trivial

/-! ### What depends on the signal -/

/-- An agreement on which a wait with an open browser can be carried out: it may ask what does not
make it wait and opens nothing, and rest with the ticket that it draws. The signal alone makes a
difference to whether it is interrupted. -/
structure Suits (c : AdmissionConfig) (A : Agreement)
    (ends : Except AdmissionError Admission → Prop) : Prop where
  may : ∀ r : Request, r.isInside = true → r.isRest = false → (∀ a, r.opened a = []) → A.may r
  rest : ∀ ticket, A.answers .enlist ticket → A.may (.rest c.pollInterval (some ticket))
  down : A.answers .isShutDown true → ends (.ok .interrupted)
  ended : ∀ ticket, A.answers .enlist ticket →
    A.answers (.rest c.pollInterval (some ticket)) true → ends (.ok .interrupted)
  others : ∀ x, x ≠ .ok .interrupted → ends x

section Suits

variable {A : Agreement} {ends : Except AdmissionError Admission → Prop} (h : Suits c A ends)

include h

theorem honours_watch {browser : Handle .browser} {ticket start rests depth : Nat}
    (hticket : A.answers .enlist ticket) :
    (c.watch browser ticket start rests depth).Honours A ends := by
  have hclock := h.may .clock rfl rfl fun _ => rfl
  induction rests generalizing depth with
  | zero =>
      unfold AdmissionConfig.watch
      split
      next => exact honours_ask hclock fun _ _ => honours_done (h.others _ (by simp))
      next =>
        refine honours_ask hclock fun time _ => ?_
        split <;> exact honours_done (h.others _ (by simp))
  | succ rests ih =>
      unfold AdmissionConfig.watch
      split
      next => exact honours_ask hclock fun _ _ => honours_done (h.others _ (by simp))
      next =>
        refine honours_ask hclock fun time _ => ?_
        split
        next =>
          -- of all answers this one alone tells of the signal: the rest was ended early or not
          refine honours_ask (h.rest ticket hticket) fun early hearly => ?_
          cases early with
          | true => exact honours_done (h.ended ticket hticket hearly)
          | false =>
              refine honours_ask (h.may _ rfl rfl fun _ => rfl) fun reply _ => ?_
              cases reply with
              | error cause => exact honours_done (h.others _ (by simp))
              | ok depth => exact ih
        next => exact honours_done (h.others _ (by simp))

theorem honours_awaitBelowMark (browser : Handle .browser) :
    (c.awaitBelowMark browser).Honours A ends := by
  refine honours_ask (h.may _ rfl rfl fun _ => rfl) fun ticket hticket => ?_
  refine honours_ask (h.may _ rfl rfl fun _ => rfl) fun down hdown => ?_
  cases down with
  | true => exact honours_done (h.down hdown)
  | false =>
      refine honours_ask (h.may _ rfl rfl fun _ => rfl) fun start _ => ?_
      refine honours_ask (h.may _ rfl rfl fun _ => rfl) fun reply _ => ?_
      cases reply with
      | error cause => exact honours_done (h.others _ (by simp))
      | ok depth => exact honours_watch h hticket

theorem honours_awaitCapacity (session : Handle .session) (d : Destination)
    (hopen : A.may (.call (.createBrowser session d))) :
    (c.awaitCapacity session d).Honours A ends := by
  unfold AdmissionConfig.awaitCapacity
  split
  next => exact honours_done (h.others _ (by simp))
  next =>
    refine honours_ask (h.may _ rfl rfl fun _ => rfl) fun down hdown => ?_
    cases down with
    | true => exact honours_done (h.down hdown)
    | false =>
        refine honours_ask hopen fun reply _ => ?_
        cases reply with
        | error cause => exact honours_done (h.others _ (by simp))
        | ok found =>
            cases found with
            | none => exact honours_done (h.others _ (by simp))
            | some w =>
                refine (honours_awaitBelowMark h w).bind fun result hresult => ?_
                exact honours_ask (h.may _ rfl rfl fun _ => rfl) fun _ _ => honours_done hresult

end Suits

theorem suits_lockless : Suits c .lockless fun _ => True where
  may _ hr _ _ := .inl hr
  rest _ _ := .inl rfl
  down _ := trivial
  ended _ _ _ := trivial
  others _ _ := trivial

theorem suits_inside : Suits c .inside fun _ => True where
  may _ hr _ _ := hr
  rest _ _ := rfl
  down _ := trivial
  ended _ _ _ := trivial
  others _ _ := trivial

theorem lockless_awaitCapacity (session : Handle .session) (d : Destination) :
    (c.awaitCapacity session d).Lockless :=
  honours_awaitCapacity suits_lockless session d (.inl rfl)

end Work

end Sluice
