import Sluice.Proofs.Task.Stillness

/-! # A station that was shut down

Once a station is shut down and the rests under way are ended, nobody rests there any more: whoever
drew a ticket before is woken, and whoever draws one later finds the station shut down before the
rest begins. This holds of work that rests only with tickets that it drew, and looks at the signal
in between. So whoever shuts a station down leaves nobody waiting for time to pass.
-/

namespace Sluice

/-- What may be asked, and what is answered to it. -/
structure Agreement where
  may : Request → Prop
  answers : (r : Request) → r.Answer → Prop

/-- A station that was shut down and has interrupted rests a number of times: the rests that may be
asked for are those that are ended already. -/
def Agreement.dismissed (rounds : Nat) : Agreement where
  may r := ∀ millis ticket, r = .rest millis ticket → ticket.any (· < rounds) = true
  answers
    | .isShutDown, down => down = true
    | .rest _ _, early => early = true
    | _, _ => True

namespace Work

variable {α β : Type} {A : Agreement} {ends ends' : α → Prop} {w : Work α}

/-- Work asks what it may, and ends as it should, as long as it is answered as agreed. -/
def Honours (A : Agreement) (ends : α → Prop) : Work α → Prop
  | .done x => ends x
  | Script.ask r next => A.may r ∧ ∀ a, A.answers r a → Honours A ends (next a)

theorem honours_done {x : α} (h : ends x) : Honours A ends (Script.done x) := h

theorem honours_ask {r : Request} {f : r.Answer → Work α} (hr : A.may r)
    (hf : ∀ a, A.answers r a → (f a).Honours A ends) : (Work.ask r >>= f).Honours A ends :=
  ⟨hr, hf⟩

theorem Honours.bind {ends' : β → Prop} {f : α → Work β} (h : w.Honours A ends)
    (hf : ∀ x, ends x → (f x).Honours A ends') : (w >>= f).Honours A ends' := by
  induction w with
  | done x => exact hf x h
  | ask r next ih => exact ⟨h.1, fun a ha => ih a (h.2 a ha)⟩

/-- Work that never rests honours what it is to do at a station that was shut down. -/
theorem Discreet.dismissed {rounds : Nat} (h : w.Discreet) :
    w.Honours (.dismissed rounds) fun _ => True := by
  induction w with
  | done x => trivial
  | ask r next ih =>
      refine ⟨?_, fun a _ => ih a (h.2 a)⟩
      rintro millis ticket rfl
      exact absurd h.1 (by simp [Request.isDiscreet])

/-- An answer is no ticket, or one that was given out before a number of rounds. -/
def Drawn (rounds : Nat) : (r : Request) → r.Answer → Prop
  | .enlist, ticket => Nat.lt ticket rounds
  | _, _ => True

/-- Work that rests only with tickets that it drew and, when it draws one, does not rest if the
station was shut down before. Whenever it asks for a rest something is known of it. -/
def Guarded (rounds : Nat) (P : Work α → Prop) : Work α → Prop
  | .done _ => True
  | Script.ask r next =>
      (∀ millis ticket, r = .rest millis ticket → ticket.any (· < rounds) = true) ∧
        (r.isRest = true → P (Script.ask r next)) ∧
        (r = .enlist → ∀ a, Honours (.dismissed rounds) (fun _ => True) (next a)) ∧
        ∀ a, Drawn rounds r a → Guarded rounds P (next a)

section Guarded

variable {rounds : Nat} {P : Work α → Prop}

theorem guarded_done (x : α) : Guarded rounds P (Script.done x) := trivial

theorem guarded_ask {r : Request} {f : r.Answer → Work α} (hrest : r.isRest = false)
    (henlist : r ≠ .enlist) (hf : ∀ a, (f a).Guarded rounds P) :
    (Work.ask r >>= f).Guarded rounds P := by
  refine ⟨?_, fun heq => absurd (heq.symm.trans hrest) (by simp),
    fun heq => absurd heq henlist, fun a _ => hf a⟩
  rintro millis ticket rfl
  simp [Request.isRest] at hrest

theorem guarded_enlist {f : Nat → Work α}
    (hdown : ∀ t, (f t).Honours (.dismissed rounds) fun _ => True)
    (hf : ∀ t < rounds, (f t).Guarded rounds P) : (Work.enlist >>= f).Guarded rounds P :=
  ⟨by simp, by simp [Request.isRest], fun _ => hdown, fun t ht => hf t ht⟩

theorem guarded_rest {millis ticket : Nat} {f : Bool → Work α} (hticket : ticket < rounds)
    (hP : P (Work.restUnlessInterrupted millis ticket >>= f))
    (hf : ∀ early, (f early).Guarded rounds P) :
    (Work.restUnlessInterrupted millis ticket >>= f).Guarded rounds P := by
  refine ⟨?_, fun _ => hP, by simp, fun early _ => hf early⟩
  rintro _ _ ⟨⟩
  simpa using hticket

theorem Discreet.guarded (h : w.Discreet) : w.Guarded rounds P := by
  induction w with
  | done x => trivial
  | ask r next ih =>
      obtain ⟨hr, hnext⟩ := h
      refine ⟨?_, ?_, fun _ a => (hnext a).dismissed, fun a _ => ih a (hnext a)⟩
      · rintro millis ticket rfl
        simp [Request.isDiscreet] at hr
      · intro hrest
        cases r <;> simp_all [Request.isRest, Request.isDiscreet]

theorem Guarded.honours (h : w.Guarded rounds P) :
    w.Honours (.dismissed rounds) fun _ => True := by
  induction w with
  | done x => trivial
  | ask r next ih =>
      obtain ⟨hticket, -, henlist, hnext⟩ := h
      refine ⟨hticket, fun a _ => ?_⟩
      by_cases hr : r = .enlist
      · exact henlist hr a
      · refine ih a (hnext a ?_)
        cases r <;> trivial

theorem Guarded.bind {P' : Work β → Prop} {f : α → Work β} (h : w.Guarded rounds P)
    (hP : ∀ w : Work α, P w → P' (w >>= f))
    (hdown : ∀ x, (f x).Honours (.dismissed rounds) fun _ => True)
    (hf : ∀ x, (f x).Guarded rounds P') : (w >>= f).Guarded rounds P' := by
  induction w with
  | done x => exact hf x
  | ask r next ih =>
      obtain ⟨hticket, hrest, henlist, hnext⟩ := h
      exact ⟨hticket, fun hr => hP _ (hrest hr),
        fun hr a => (henlist hr a).bind fun x _ => hdown x, fun a ha => ih a (hnext a ha)⟩

end Guarded

end Work

namespace Scene

variable {J α : Type} {T : Terms} {account : J → α → List Event → Prop} {work : J → Work α}
variable {s s' : Scene J α} {i : Nat} {rounds : Nat} {P : J → Work α → Prop}

/-! ### The signal -/

theorem raised_of_answered {m m' : Moment} {r : Request} {a : r.Answer}
    (h : Answered i m r a m') : m.signal.Raised m'.signal := by
  obtain ⟨met, hmet, rfl⟩ := h
  cases hmet with
  | shutDown => exact ⟨fun _ => rfl, Nat.le_refl _⟩
  | interrupt => exact ⟨id, Nat.le_succ _⟩
  | _ => exact .refl _

theorem raised_of_acts (h : s.Acts i s') : s.station.signal.Raised s'.station.signal := by
  rcases h.moment with hsame | ⟨r, a, hanswered, -⟩
  · have hsignal : s'.station.signal = s.station.signal := congrArg Moment.signal hsame
    exact hsignal ▸ .refl _
  · exact raised_of_answered hanswered

/-- The signal of a station is never lowered. -/
theorem raised_step (work : J → Work α) (hregular : s.Regular) (c : Choice J) :
    s.station.signal.Raised (s.step work c).station.signal := by
  by_cases hc : ∃ i, c = .act i
  · obtain ⟨i, rfl⟩ := hc
    exact raised_of_acts (hregular.acts i)
  · exact (drift_step hregular (fun i heq => hc ⟨i, heq⟩) 0).raised

/-! ### Tickets -/

/-- Tickets are given out before the rounds that they are good for. -/
theorem drawn_of_gives {r : Request} {a : r.Answer} (h : s.Gives i r a)
    (hrounds : s.station.signal.rounds < rounds) : Work.Drawn rounds r a := by
  cases h with
  | met hrest hmet =>
      cases hmet with
      | enlist => exact hrounds
      | _ => trivial
  | ended h => trivial
  | elapsed h hover => trivial

theorem Follows.guarded_step (h : s.Follows fun _ job w => w.Guarded rounds (P job))
    (hregular : s.Regular) (hwork : ∀ job, (work job).Guarded rounds (P job))
    (hrounds : s.station.signal.rounds < rounds) (c : Choice J) :
    (s.step work c).Follows fun _ job w => w.Guarded rounds (P job) :=
  h.step hregular hwork
    (fun _ _ _ _ a _ _ hguarded hgives => hguarded.2.2.2 a (drawn_of_gives hgives hrounds)) c

/-- Everybody rests with tickets that were drawn. -/
def Ticketed (P : J → Work α → Prop) (s : Scene J α) : Prop :=
  ∀ rounds, s.station.signal.rounds < rounds → s.Follows fun _ job w => w.Guarded rounds (P job)

theorem Ticketed.step (h : s.Ticketed P) (hregular : s.Regular)
    (hwork : ∀ rounds job, (work job).Guarded rounds (P job)) (c : Choice J) :
    (s.step work c).Ticketed P := by
  intro rounds hrounds
  have hbefore := Nat.lt_of_le_of_lt (raised_step work hregular c).rounds hrounds
  exact (h rounds hbefore).guarded_step hregular (hwork rounds) hbefore c

theorem ticketed_empty : ({} : Scene J α).Ticketed P := by
  intro rounds hrounds i state job hstate
  simp [state?] at hstate

/-! ### Shutting down -/

/-- Nobody rests any more: the station is shut down, and all rests begun before are ended. -/
structure Dismissed (s : Scene J α) : Prop where
  down : s.station.signal.isShutDown = true
  ended : ∃ rounds ≤ s.station.signal.rounds,
    s.Follows fun _ _ w => w.Honours (.dismissed rounds) fun _ => True

/-- Whoever is dismissed is answered so. -/
theorem answers_of_gives {r : Request} {a : r.Answer} (h : s.Gives i r a)
    (hdown : s.station.signal.isShutDown = true) (hrounds : rounds ≤ s.station.signal.rounds)
    (hmay : (Agreement.dismissed rounds).may r) : (Agreement.dismissed rounds).answers r a := by
  cases h with
  | met hrest hmet =>
      cases hmet with
      | isShutDown => exact hdown
      | rest => simp [Request.isRest] at hrest
      | _ => trivial
  | ended h => exact rfl
  | @elapsed millis ticket h hover =>
      -- such a rest is ended already
      have hended := hmay millis ticket rfl
      cases ticket with
      | none => simp at hended
      | some t =>
          rw [Option.any_some, decide_eq_true_eq] at hended
          have hlt : t < s.station.signal.rounds := Nat.lt_of_lt_of_le hended hrounds
          simp [Signal.endedSince, hlt] at h

theorem Dismissed.step (h : s.Dismissed) (hregular : s.Regular)
    (hwork : ∀ rounds job, (work job).Guarded rounds (P job)) (c : Choice J) :
    (s.step work c).Dismissed := by
  have hraised := raised_step work hregular c
  obtain ⟨rounds, hrounds, hfollows⟩ := h.ended
  refine ⟨hraised.isShutDown h.down, rounds, Nat.le_trans hrounds hraised.rounds, ?_⟩
  refine hfollows.step hregular (fun job => (hwork rounds job).honours) ?_ c
  intro i job r next a _ _ hhonours hgives
  exact hhonours.2 a (answers_of_gives hgives h.down hrounds hhonours.1)

/-- Whoever rests is woken. -/
theorem Dismissed.ended_of_resting (h : s.Dismissed) (hregular : s.Regular) {deadline : Nat}
    {ticket : Option Nat} {next : Bool → Work α}
    (hstate : s.state? i = some (.resting deadline ticket next)) :
    s.station.signal.endedSince ticket = true := by
  obtain ⟨rounds, hrounds, hfollows⟩ := h.ended
  obtain ⟨job, hjob⟩ := hregular.job_of_state hstate
  obtain ⟨millis, -, hmay, -⟩ := hfollows i _ job hstate hjob
  have hended := hmay millis ticket rfl
  cases ticket with
  | none => simp at hended
  | some t =>
      rw [Option.any_some, decide_eq_true_eq] at hended
      simpa [Signal.endedSince] using Nat.lt_of_lt_of_le hended hrounds

theorem Dismissed.idle_of_still (h : s.Dismissed) (hsound : s.Sound T account)
    (hstill : s.isStill = true) : s.isIdle = true :=
  Scene.idle_of_still hsound hstill fun _ _ _ _ hstate => h.ended_of_resting hsound.regular hstate

/-- Once the station is shut down in one step, everybody is dismissed. -/
theorem dismissed_of_shutDown (hregular : s.Regular) (hticketed : s.Ticketed P)
    (hwork : ∀ rounds job, (work job).Guarded rounds (P job)) :
    (s.step work .shutDown).Dismissed := by
  have hsignal : (s.step work .shutDown).station.signal =
      { isShutDown := true, rounds := s.station.signal.rounds + 1 } :=
    congrArg Station.signal (station_shutDown hregular.station)
  refine ⟨by rw [hsignal], s.station.signal.rounds + 1, by rw [hsignal], ?_⟩
  -- all tickets were drawn before this interruption
  have hguarded := (hticketed _ (Nat.lt_succ_self _)).guarded_step hregular (hwork _)
    (Nat.lt_succ_self _) .shutDown
  exact fun i state job hstate hjob =>
    (hguarded i state job hstate hjob).mono fun w hw => hw.honours

/-- Whatever is not done by a task is done with the broker, or not noted. -/
theorem past_beside (work : J → Work α) (s : Scene J α) {c : Choice J} (hc : ∀ i, c ≠ .act i) :
    ∃ events, (s.step work c).past = s.past ++ events ∧
      ∀ e ∈ events, ∃ o, e.deed = .operated o := by
  have hnothing : ∃ events : List Event, s.past = s.past ++ events ∧
      ∀ e ∈ events, ∃ o, e.deed = .operated o := ⟨[], (List.append_nil _).symm, by simp⟩
  cases c with
  | act i => exact absurd rfl (hc i)
  | operate o =>
      simp only [Scene.step]
      split
      next => exact ⟨[_], rfl, by simp⟩
      next => exact hnothing
  | cancel i =>
      simp only [Scene.step]
      split <;> exact hnothing
  | _ => exact hnothing

/-- Whoever was dismissed sleeps through no rest. -/
theorem Dismissed.past_step (work : J → Work α) (h : s.Dismissed) (hregular : s.Regular)
    (c : Choice J) :
    ∃ events, (s.step work c).past = s.past ++ events ∧ ∀ e ∈ events, e.deed ≠ .rested false := by
  obtain ⟨rounds, hrounds, hfollows⟩ := h.ended
  by_cases hc : ∃ i, c = .act i
  · obtain ⟨i, rfl⟩ := hc
    have hpromise : ∀ state, s.state? i = some state →
        state.Lifts (Work.Honours (.dismissed rounds) fun _ => True) := by
      intro state hstate
      obtain ⟨job, hjob⟩ := hregular.job_of_state hstate
      exact hfollows i state job hstate hjob
    rcases promise_act hregular hpromise with
      ⟨hsame, -⟩ | ⟨r, next, a, -, hhonours, hgives, hanswered, -⟩
    · exact ⟨[], (congrArg Moment.past hsame).trans (List.append_nil _).symm, by simp⟩
    · refine ⟨_, hanswered.past, ?_⟩
      have hanswers := answers_of_gives hgives h.down hrounds hhonours.1
      rw [List.forall_mem_singleton]
      cases r with
      | rest millis ticket =>
          obtain rfl : a = true := hanswers
          simp [Request.deed]
      | _ => simp [Request.deed]
  · obtain ⟨events, hpast, hevents⟩ := past_beside work s fun i heq => hc ⟨i, heq⟩
    refine ⟨events, hpast, fun e he => ?_⟩
    obtain ⟨o, ho⟩ := hevents e he
    simp [ho]

/-- How far a task has come that shuts the station down and interrupts the rests under way. -/
inductive Winding (c : Nat) (next : Unit → Work α) (s : Scene J α) : Prop
  | called (h : s.state? c =
      some (.ready (Script.ask .shutDown fun _ => Script.ask .interrupt next)))
  | down (hdown : s.station.signal.isShutDown = true)
      (h : s.state? c = some (.ready (Script.ask .interrupt next)))
  | through (h : s.Dismissed)

section Winding

variable {c : Nat} {next : Unit → Work α}

theorem Winding.act (h : s.Winding c next) (hregular : s.Regular) (hticketed : s.Ticketed P)
    (hwork : ∀ rounds job, (work job).Guarded rounds (P job)) : (s.act c).Winding c next := by
  cases h with
  | called h =>
      obtain ⟨a, ⟨met, hmet, hnoted⟩, hstate⟩ := hregular.answered_of_asked rfl (by simp) h
      cases hmet
      exact .down (congrArg (fun m : Moment => m.signal.isShutDown) hnoted) hstate
  | down hdown h =>
      have hraised := raised_of_acts (hregular.acts c)
      obtain ⟨a, ⟨met, hmet, hnoted⟩, -⟩ := hregular.answered_of_asked rfl (by simp) h
      cases hmet
      have hrounds : (s.act c).station.signal.rounds = s.station.signal.rounds + 1 :=
        congrArg (fun m : Moment => m.signal.rounds) hnoted
      refine .through ⟨hraised.isShutDown hdown, _, Nat.le_of_eq hrounds.symm, ?_⟩
      -- all tickets were drawn before this interruption
      have hguarded := (hticketed _ (Nat.lt_succ_self _)).guarded_step hregular (hwork _)
        (Nat.lt_succ_self _) (.act c)
      exact fun i state job hstate hjob =>
        (hguarded i state job hstate hjob).mono fun w hw => hw.honours
  | through h => exact .through (h.step hregular hwork (.act c))

/-- Whoever shuts a station down gets through with it, unless stopped. -/
theorem Winding.step (h : s.Winding c next) (hregular : s.Regular)
    (hticketed : s.Ticketed P) (hwork : ∀ rounds job, (work job).Guarded rounds (P job))
    {choice : Choice J} (hc : choice ≠ .cancel c) : (s.step work choice).Winding c next := by
  by_cases hact : choice = .act c
  · rw [hact]
    exact h.act hregular hticketed hwork
  have hraised := raised_step work hregular choice
  have hsame : ∀ {w : Work α}, s.state? c = some (.ready w) →
      (s.step work choice).state? c = some (.ready w) := fun hstate =>
    (state?_step_of_ne hregular (by simp [hstate]) hact hc).trans hstate
  cases h with
  | called h => exact .called (hsame h)
  | down hdown h => exact .down (hraised.isShutDown hdown) (hsame h)
  | through h => exact .through (h.step hregular hwork choice)

/-- Whoever shuts a station down gets through with it or is stopped. -/
theorem Winding.step_or_cancelled (h : s.Winding c next) (hregular : s.Regular)
    (hticketed : s.Ticketed P) (hwork : ∀ rounds job, (work job).Guarded rounds (P job))
    (choice : Choice J) :
    (s.step work choice).Winding c next ∨ (s.step work choice).state? c = some .cancelled := by
  by_cases hcancel : choice = .cancel c
  · subst hcancel
    rcases state?_cancel work s c with hsame | hcancelled
    · left
      cases h with
      | called h => exact .called (hsame.trans h)
      | down hdown h =>
          exact .down ((raised_step work hregular _).isShutDown hdown) (hsame.trans h)
      | through h => exact .through (h.step hregular hwork _)
    · exact .inr hcancelled
  · exact .inl (h.step hregular hticketed hwork hcancel)

/-- If nobody can go on, whoever shuts the station down is through with it, and everybody is
over. -/
theorem Winding.idle_of_still (h : s.Winding c next) (hsound : s.Sound T account)
    (hstill : s.isStill = true) : s.isIdle = true := by
  have hcan := canAct_of_still hstill c
  cases h with
  | called h => simp [canAct, h] at hcan
  | down hdown h => simp [canAct, h] at hcan
  | through h => exact h.idle_of_still hsound hstill

end Winding

end Scene

end Sluice
