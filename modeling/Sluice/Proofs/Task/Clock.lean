import Sluice.Proofs.Task.Steps

/-! # Work by the clock

Time never goes back, and a rest that nobody ends takes as long as it was meant to. So a script that
looks at the clock can tell how much time has passed at least. What it asserts of its result and of
the time is true in every scene once it has come back, whatever was answered and whatever was chosen
in between.
-/

namespace Sluice

namespace Request

/-- Whether the clock can say this at a time; what is not asked of the clock can be anything. -/
def SaidAt (time : Nat) : (r : Request) → r.Answer → Prop
  | .clock, said => said = time
  | _, _ => True

/-- The earliest time at which a request that is made at a time has been answered. -/
def earliest (time : Nat) : (r : Request) → r.Answer → Nat
  | .rest millis _, false => time + millis
  | _, _ => time

theorem le_earliest (time : Nat) (r : Request) (a : r.Answer) : time ≤ r.earliest time a := by
  unfold earliest
  split
  · exact Nat.le_add_right _ _
  · exact Nat.le_refl _

/-- Only rests take time. -/
theorem earliest_of_not_rest {time : Nat} {r : Request} {a : r.Answer} (hrest : r.isRest = false) :
    r.earliest time a = time := by
  cases r <;> first | rfl | simp [isRest] at hrest

end Request

namespace Work

variable {α β : Type} {ends : α → Nat → Prop} {now now' : Nat} {w : Work α}

/-- Begun at a time or later, work ends with an assertion about its result and about every time from
then on. -/
def Timed (ends : α → Nat → Prop) : Work α → Nat → Prop
  | .done x, now => ∀ time, now ≤ time → ends x time
  | Script.ask r next, now => ∀ time, now ≤ time → ∀ a, r.SaidAt time a →
      Timed ends (next a) (r.earliest time a)

/-- It may begin later. -/
theorem Timed.later (h : w.Timed ends now) (hle : now ≤ now') : w.Timed ends now' := by
  cases w with
  | done x => exact fun time htime => h time (Nat.le_trans hle htime)
  | ask r next => exact fun time htime => h time (Nat.le_trans hle htime)

theorem Timed.mono {ends' : α → Nat → Prop} (h : w.Timed ends now)
    (hends : ∀ x time, ends x time → ends' x time) : w.Timed ends' now := by
  induction w generalizing now with
  | done x => exact fun time htime => hends x time (h time htime)
  | ask r next ih => exact fun time htime a hsaid => ih a (h time htime a hsaid)

theorem Timed.bind {f : α → Work β} {ends : β → Nat → Prop}
    (h : w.Timed (fun x time => (f x).Timed ends time) now) : (w >>= f).Timed ends now := by
  induction w generalizing now with
  | done x => exact h now (Nat.le_refl now)
  | ask r next ih => exact fun time htime a hsaid => ih a (h time htime a hsaid)

theorem timed_done {x : α} (h : ∀ time, now ≤ time → ends x time) :
    Timed ends (Script.done x) now := h

theorem timed_ask {r : Request} {f : r.Answer → Work α} (hrest : r.isRest = false)
    (h : ∀ time, now ≤ time → ∀ a, (f a).Timed ends time) : (Work.ask r >>= f).Timed ends now := by
  intro time htime a _
  rw [Request.earliest_of_not_rest hrest]
  exact h time htime a

theorem timed_clock {f : Nat → Work α} (h : ∀ time, now ≤ time → (f time).Timed ends time) :
    (Work.clock >>= f).Timed ends now := by
  rintro time htime said rfl
  exact h said htime

theorem timed_rest {millis ticket : Nat} {f : Bool → Work α}
    (hended : ∀ time, now ≤ time → (f true).Timed ends time)
    (hover : ∀ time, now ≤ time → (f false).Timed ends (time + millis)) :
    (Work.restUnlessInterrupted millis ticket >>= f).Timed ends now := by
  intro time htime early _
  cases early with
  | true => exact hended time htime
  | false => exact hover time htime

/-- What is true of every result needs no clock. -/
theorem timed_of_forall (h : ∀ x time, now ≤ time → ends x time) (w : Work α) :
    w.Timed ends now := by
  induction w generalizing now with
  | done x => exact h x
  | ask r next ih =>
      refine fun time htime a _ => ih a fun x time' htime' => h x time' ?_
      exact Nat.le_trans htime (Nat.le_trans (r.le_earliest time a) htime')

/-- The lock may be waited for, and is given back after the work. -/
theorem timed_locked {f : α → Work β} {ends : β → Nat → Prop}
    (h : w.Timed (fun x time => (f x).Timed ends time) now) :
    (Work.locked w >>= f).Timed ends now := by
  refine Timed.bind (timed_ask rfl fun time htime _ => Timed.bind ?_)
  refine (h.later htime).mono fun x time hx => timed_ask rfl fun time' htime' _ => ?_
  exact timed_done fun time'' htime'' => hx.later (Nat.le_trans htime' htime'')

end Work

/-- How a task stands whose work ends with an assertion. A rest that is under way is over at its
deadline, unless it is ended. -/
def TaskState.Timed {α : Type} (ends : α → Nat → Prop) (now : Nat) : TaskState α → Prop
  | .ready w => w.Timed ends now
  | .resting deadline _ next => (next true).Timed ends now ∧ (next false).Timed ends deadline
  | .inLine next => (next ()).Timed ends now
  | .finished x => ∀ time, now ≤ time → ends x time
  | .cancelled => True

theorem TaskState.Timed.later {α : Type} {ends : α → Nat → Prop} {now now' : Nat}
    {state : TaskState α} (h : state.Timed ends now) (hle : now ≤ now') :
    state.Timed ends now' := by
  cases state with
  | ready w => exact Work.Timed.later h hle
  | resting deadline ticket next => exact ⟨h.1.later hle, h.2⟩
  | inLine next => exact Work.Timed.later h hle
  | finished x => exact fun time htime => h time (Nat.le_trans hle htime)
  | cancelled => trivial

namespace Scene

variable {J α : Type} {s : Scene J α} {i : Nat} {ends : α → Nat → Prop}

/-- A task was begun whose work ends with an assertion. -/
def Timed (ends : α → Nat → Prop) (s : Scene J α) (i : Nat) : Prop :=
  ∃ state, s.state? i = some state ∧ state.Timed ends s.schedule.now

theorem Timed.begin {work : J → Work α} {job : J} (h : (work job).Timed ends s.schedule.now) :
    (s.step work (.begin job)).Timed ends s.schedule.tasks.length :=
  ⟨_, (state?_begin s job _).trans (if_pos rfl), h⟩

/-- Only the clock says what time it is, and no answer comes before its time. -/
theorem timed_of_gives {r : Request} {next : r.Answer → Work α} {a : r.Answer}
    (hstate : s.state? i = some (.ready (Script.ask r next))) (hgives : s.Gives i r a)
    (h : Work.Timed ends (Script.ask r next) s.schedule.now) :
    Work.Timed ends (next a) s.schedule.now := by
  have hnow := h s.schedule.now (Nat.le_refl _) a
  cases hgives with
  | met hrest hmet =>
      rw [Request.earliest_of_not_rest hrest] at hnow
      refine hnow ?_
      cases hmet <;> first | rfl | trivial
  | ended => exact hnow trivial
  | elapsed _ hover =>
      rcases hover with rfl | ⟨deadline, next', hresting, -⟩
      · exact hnow trivial
      · simp [hstate] at hresting

theorem Timed.act (h : s.Timed ends i) (hregular : s.Regular) : (s.act i).Timed ends i := by
  obtain ⟨state, hstate, htimed⟩ := h
  have hturned : ∀ {state' : TaskState α}, Turned i state' s (s.act i) →
      state'.Timed ends s.schedule.now → (s.act i).Timed ends i :=
    fun hto htimed' => ⟨_, hto.state, hto.now ▸ htimed'⟩
  have hsame : ∀ {state' : TaskState α}, s.state? i = some state' →
      state'.Timed ends s.schedule.now :=
    fun hstate' => Option.some.inj (hstate.symm.trans hstate') ▸ htimed
  cases hregular.acts i with
  | stays _ hstays => exact hstays.symm ▸ ⟨state, hstate, htimed⟩
  | @returns x hstate' hto =>
      have hdone : Work.Timed ends (.done x) s.schedule.now := hsame hstate'
      exact hturned hto hdone
  | answered hstate' hgives hto =>
      exact hturned hto (timed_of_gives hstate' hgives (hsame hstate'))
  | rests hstate' _ hto =>
      have hasked := hsame hstate' s.schedule.now (Nat.le_refl _)
      exact hturned hto ⟨hasked true trivial, hasked false trivial⟩
  | queues hstate' hto =>
      exact hturned hto (hsame hstate' s.schedule.now (Nat.le_refl _) () trivial)
  | @wakes deadline ticket next early hstate' hgives hto =>
      obtain ⟨hended, hover⟩ := hsame hstate'
      refine hturned hto ?_
      -- asked of a rest that takes time, so that it is over by its deadline or not at all
      cases hgives 1 with
      | met hrest => cases hrest
      | ended => exact hended
      | elapsed _ hdeadline =>
          obtain ⟨deadline', next', hresting, hle⟩ := hdeadline.resolve_left Nat.one_ne_zero
          obtain ⟨⟩ := Option.some.inj (hstate'.symm.trans hresting)
          exact hover.later hle
  | @granted next hstate' hto =>
      have hnext : Work.Timed ends (next ()) s.schedule.now := hsame hstate'
      exact hturned hto hnext

theorem le_now_step (work : J → Work α) (hregular : s.Regular) (c : Choice J) :
    s.schedule.now ≤ (s.step work c).schedule.now := by
  by_cases hpass : ∃ millis, c = .pass millis
  · obtain ⟨millis, rfl⟩ := hpass
    exact Nat.le_add_right _ _
  · exact Nat.le_of_eq (now_step hregular fun millis heq => hpass ⟨millis, heq⟩).symm

/-- Whatever is chosen, the work ends with the assertion. -/
theorem Timed.step (h : s.Timed ends i) (work : J → Work α) (hregular : s.Regular)
    (c : Choice J) : (s.step work c).Timed ends i := by
  obtain ⟨state, hstate, htimed⟩ := h
  have hle := le_now_step work hregular c
  by_cases hact : c = .act i
  · subst hact
    exact Timed.act ⟨state, hstate, htimed⟩ hregular
  by_cases hcancel : c = .cancel i
  · subst hcancel
    rcases state?_cancel work s i with hsame | hcancelled
    · exact ⟨state, hsame.trans hstate, htimed.later hle⟩
    · exact ⟨.cancelled, hcancelled, trivial⟩
  · exact ⟨state, (state?_step_of_ne hregular (by simp [hstate]) hact hcancel).trans hstate,
      htimed.later hle⟩

/-- Whoever has come back fulfils the assertion. -/
theorem Timed.outcome (h : s.Timed ends i) {x : α} (hx : s.outcome? i = some x) :
    ends x s.schedule.now := by
  obtain ⟨state, hstate, htimed⟩ := h
  rcases state_of_outcome hx with hback | hback
  all_goals
    obtain rfl := Option.some.inj (hstate.symm.trans hback)
    exact htimed s.schedule.now (Nat.le_refl _)

section Sound

variable {T : Terms} {account : J → α → List Event → Prop} {work : J → Work α}

/-- From its beginning on, whatever is chosen, a task ends with what its work asserts at that
time. -/
theorem timed_run (hsound : s.Sound T account)
    (hwork : ∀ job i m, m.own i = [] → T.Abides i (account job) (work job) false m) {job : J}
    (htimed : (work job).Timed ends s.schedule.now) (choices : List (Choice J)) :
    (s.run work (.begin job :: choices)).Timed ends s.schedule.tasks.length := by
  have hbegun : (s.step work (.begin job)).Sound T account := hsound.step hwork (.begin job)
  have hlast := run_of_step
    (I := fun s' : Scene J α => s'.Sound T account ∧ s'.Timed ends s.schedule.tasks.length)
    (fun _ c h => ⟨h.1.step hwork c, h.2.step work h.1.regular c⟩) ⟨hbegun, .begin htimed⟩ choices
  exact hlast.2

end Sound

end Scene

end Sluice
