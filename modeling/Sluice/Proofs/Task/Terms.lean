import Sluice.Proofs.Task.Moment

/-! # Terms of work

Terms say what whoever works inside the lock of a station owes to everybody else: something that
holds at every moment, something that holds whenever the lock may pass to another, and something
about whoever rests. A script secures an assertion on these terms if it keeps them and ends with the
assertion, whatever the broker and the directory answer and whatever others do between its requests.
-/

namespace Sluice

namespace Request

/-- Whether a request is made inside the lock. -/
def isInside : Request → Bool
  | .lookup _ _ => true
  | .call _ => true
  | .clock => true
  | .isShutDown => true
  | .enlist => true
  | .rest _ _ => true
  | .manager => true
  | .keep _ => true
  | _ => false

/-- Whether a request lets the task wait inside the lock, where it may be stopped. -/
def isRest : Request → Bool
  | .rest _ _ => true
  | _ => false

end Request

/-- What is owed to everybody else by whoever works inside the lock of a station. -/
structure Terms where
  /-- What holds at every moment. -/
  safe : Moment → Prop
  /-- What holds whenever the lock may pass to another. -/
  calm : Moment → Prop
  /-- What whoever rests has done so far. -/
  resting : List Event → Prop
  safe_of_calm : ∀ m, calm m → safe m
  calm_stable : Stable calm

namespace Terms

variable {α β : Type} {T T' : Terms} {i : Nat} {m m' : Moment}

/-- The terms of two parties together. -/
def both (T T' : Terms) : Terms where
  safe m := T.safe m ∧ T'.safe m
  calm m := T.calm m ∧ T'.calm m
  resting events := T.resting events ∧ T'.resting events
  safe_of_calm m h := ⟨T.safe_of_calm m h.1, T'.safe_of_calm m h.2⟩
  calm_stable i m m' hshift h :=
    ⟨T.calm_stable i m m' hshift h.1, T'.calm_stable i m m' hshift h.2⟩

/-- A script keeps the terms and ends with an assertion about its result. -/
def Secures (T : Terms) (i : Nat) (Q : α → Moment → Prop) : Work α → Moment → Prop
  | .done x, m => ∀ m', Drift i m m' → T.safe m' ∧ Q x m'
  | Script.ask r next, m => ∀ m', Drift i m m' →
      T.safe m' ∧ r.isInside = true ∧ (r.isRest = true → T.calm m' ∧ T.resting (m'.own i)) ∧
        ∀ a m'', Answered i m' r a m'' → T.Secures i Q (next a) m''

theorem Secures.mono {Q Q' : α → Moment → Prop} {w : Work α} (h : T.Secures i Q w m)
    (hpost : ∀ x m, Q x m → Q' x m) : T.Secures i Q' w m := by
  induction w generalizing m with
  | done x =>
      intro m' hdrift
      obtain ⟨hsafe, hQ⟩ := h m' hdrift
      exact ⟨hsafe, hpost x m' hQ⟩
  | ask r next ih =>
      intro m' hdrift
      obtain ⟨hsafe, hinside, hrest, hnext⟩ := h m' hdrift
      exact ⟨hsafe, hinside, hrest, fun a m'' ha => ih a (hnext a m'' ha)⟩

/-- What is secured stays true while others act. -/
theorem Secures.stably {Q : α → Moment → Prop} {w : Work α} (h : T.Secures i Q w m) :
    T.Secures i (fun x m => ∀ m', Drift i m m' → Q x m') w m := by
  induction w generalizing m with
  | done x =>
      intro m' hdrift
      exact ⟨(h m' hdrift).1, fun m'' hdrift' => (h m'' (hdrift.trans hdrift')).2⟩
  | ask r next ih =>
      intro m' hdrift
      obtain ⟨hsafe, hinside, hrest, hnext⟩ := h m' hdrift
      exact ⟨hsafe, hinside, hrest, fun a m'' ha => ih a (hnext a m'' ha)⟩

/-- What neither others nor answers to the task make untrue is true in the end. -/
theorem Secures.along {Q : α → Moment → Prop} {w : Work α} {P : Moment → Prop}
    (h : T.Secures i Q w m) (hdrifts : ∀ m m', Drift i m m' → P m → P m')
    (hanswers : ∀ (r : Request) a m m', Answered i m r a m' → P m → P m') (hm : P m) :
    T.Secures i (fun x m => Q x m ∧ P m) w m := by
  induction w generalizing m with
  | done x =>
      intro m' hdrift
      exact ⟨(h m' hdrift).1, (h m' hdrift).2, hdrifts m m' hdrift hm⟩
  | ask r next ih =>
      intro m' hdrift
      obtain ⟨hsafe, hinside, hrest, hnext⟩ := h m' hdrift
      refine ⟨hsafe, hinside, hrest, fun a m'' ha => ih a (hnext a m'' ha) ?_⟩
      exact hanswers r a m' m'' ha (hdrifts m m' hdrift hm)

/-- What a task has shown once it has shown. -/
theorem Secures.owned {Q : α → Moment → Prop} {w : Work α} {S : List Event → Prop}
    (h : T.Secures i Q w m) (hS : ∀ own later, S own → S (own ++ later)) (hm : S (m.own i)) :
    T.Secures i (fun x m => Q x m ∧ S (m.own i)) w m := by
  refine h.along (P := fun m => S (m.own i)) ?_ ?_ hm
  · intro m m' hdrift hshown
    rwa [hdrift.own]
  · intro r a m m' ha hshown
    rw [Answered.own ha]
    exact hS _ _ hshown

theorem Secures.bind {Q : β → Moment → Prop} {w : Work α} {f : α → Work β}
    (h : T.Secures i (fun x m => T.Secures i Q (f x) m) w m) : T.Secures i Q (w >>= f) m := by
  -- on the first script; where it is done, the second takes over at the same moment
  induction w generalizing m with
  | done x => exact (h m .refl).2
  | ask r next ih =>
      intro m' hdrift
      obtain ⟨hsafe, hinside, hrest, hnext⟩ := h m' hdrift
      exact ⟨hsafe, hinside, hrest, fun a m'' ha => ih a (hnext a m'' ha)⟩

theorem Secures.both {Q Q' : α → Moment → Prop} {w : Work α} (h : T.Secures i Q w m)
    (h' : T'.Secures i Q' w m) :
    (T.both T').Secures i (fun x m => Q x m ∧ Q' x m) w m := by
  induction w generalizing m with
  | done x =>
      intro m' hdrift
      obtain ⟨hsafe, hQ⟩ := h m' hdrift
      obtain ⟨hsafe', hQ'⟩ := h' m' hdrift
      exact ⟨⟨hsafe, hsafe'⟩, hQ, hQ'⟩
  | ask r next ih =>
      intro m' hdrift
      obtain ⟨hsafe, hinside, hrest, hnext⟩ := h m' hdrift
      obtain ⟨hsafe', -, hrest', hnext'⟩ := h' m' hdrift
      refine ⟨⟨hsafe, hsafe'⟩, hinside, ?_, fun a m'' ha => ih a (hnext a m'' ha) (hnext' a m'' ha)⟩
      intro hr
      exact ⟨⟨(hrest hr).1, (hrest' hr).1⟩, (hrest hr).2, (hrest' hr).2⟩

/-! ### Single requests -/

section Requests

variable {Q : β → Moment → Prop}

theorem secures_done {x : β} (h : ∀ m', Drift i m m' → T.safe m' ∧ Q x m') :
    T.Secures i Q (Script.done x) m :=
  h

theorem secures_ask {r : Request} {f : r.Answer → Work β} (hinside : r.isInside = true)
    (h : ∀ m', Drift i m m' → T.safe m' ∧
      (r.isRest = true → T.calm m' ∧ T.resting (m'.own i)) ∧
      ∀ a met, Met m' r a met → T.Secures i Q (f a) (met.note (.answered i r a m' met))) :
    T.Secures i Q (Work.ask r >>= f) m := by
  intro m' hdrift
  obtain ⟨hsafe, hrest, hnext⟩ := h m' hdrift
  refine ⟨hsafe, hinside, hrest, ?_⟩
  rintro a m'' ⟨met, hmet, rfl⟩
  exact hnext a met hmet

theorem secures_call {c : Call} {f : c.Reply → Work β}
    (h : ∀ m', Drift i m m' → T.safe m' ∧
      ∀ reply b', m'.broker.perform m'.now c = (reply, b') → m'.broker.Effect m'.now c reply b' →
        T.Secures i Q (f reply) (m'.called i c reply b')) :
    T.Secures i Q (Work.call c >>= f) m := by
  apply secures_ask rfl
  intro m' hdrift
  obtain ⟨hsafe, hnext⟩ := h m' hdrift
  refine ⟨hsafe, by simp [Request.isRest], ?_⟩
  intro a met hmet
  cases hmet
  exact hnext _ _ rfl (m'.broker.perform_effect m'.now c)

theorem secures_look {r : Request} {f : r.Answer → Work β}
    (h : ∀ m', Drift i m m' → T.safe m' ∧
      ∃ a, m'.look r = some a ∧ T.Secures i Q (f a) (m'.idled i (r.deed a))) :
    T.Secures i Q (Work.ask r >>= f) m := by
  refine secures_ask ?_ fun m' hdrift => ?_
  · obtain ⟨-, a, hlook, -⟩ := h m .refl
    cases r <;> simp_all [Request.isInside, Moment.look]
  · obtain ⟨hsafe, a, hlook, hnext⟩ := h m' hdrift
    refine ⟨hsafe, ?_, ?_⟩
    · intro hrest
      cases r <;> simp_all [Request.isRest, Moment.look]
    · intro a' met hmet
      obtain ⟨rfl, rfl⟩ := hmet.of_look hlook
      exact hnext

theorem secures_keep {x : Manager} {f : Unit → Work β}
    (h : ∀ m', Drift i m m' → T.safe m' ∧ T.Secures i Q (f ()) (m'.kept i x)) :
    T.Secures i Q (Work.keep x >>= f) m := by
  apply secures_ask rfl
  intro m' hdrift
  obtain ⟨hsafe, hnext⟩ := h m' hdrift
  refine ⟨hsafe, by simp [Request.isRest], ?_⟩
  intro a met hmet
  cases hmet
  exact hnext

theorem secures_lookup {name : String} {properties : Properties}
    {f : Except NamingError Entry → Work β}
    (h : ∀ m', Drift i m m' → T.safe m' ∧
      ∀ found, T.Secures i Q (f found) (m'.idled i .other)) :
    T.Secures i Q (Work.lookup name properties >>= f) m := by
  apply secures_ask rfl
  intro m' hdrift
  obtain ⟨hsafe, hnext⟩ := h m' hdrift
  refine ⟨hsafe, by simp [Request.isRest], ?_⟩
  intro a met hmet
  cases hmet
  exact hnext a

theorem secures_rest {millis ticket : Nat} {f : Bool → Work β}
    (h : ∀ m', Drift i m m' → T.safe m' ∧ T.calm m' ∧ T.resting (m'.own i) ∧
      ∀ early, (early = true → ticket < m'.signal.rounds) →
        T.Secures i Q (f early) (m'.idled i (.rested early))) :
    T.Secures i Q (Work.restUnlessInterrupted millis ticket >>= f) m := by
  apply secures_ask rfl
  intro m' hdrift
  obtain ⟨hsafe, hcalm, hresting, hnext⟩ := h m' hdrift
  refine ⟨hsafe, fun _ => ⟨hcalm, hresting⟩, ?_⟩
  intro a met hmet
  cases hmet with
  | rest _ _ _ hended =>
      apply hnext a
      intro hearly
      simpa [Signal.endedSince] using hended hearly

end Requests

/-! ### Assertions that last -/

section Lasting

variable {Q : β → Moment → Prop} {A : Moment → Prop}

theorem lasts_drift (hlasts : ∀ m m', Shift i m m' → A m → A m') (hdrift : Drift i m m')
    (hA : A m) : A m' := by
  induction hdrift with
  | refl => exact hA
  | tail _ hshift ih => exact hlasts _ _ hshift ih

variable (hlasts : ∀ m m', Shift i m m' → A m → A m') (hsafe : ∀ m, A m → T.safe m) (hA : A m)

include hlasts hsafe hA

theorem secures_done_at {x : β} (h : ∀ m, A m → Q x m) : T.Secures i Q (Script.done x) m := by
  apply secures_done
  intro m' hdrift
  have hA' := lasts_drift hlasts hdrift hA
  exact ⟨hsafe m' hA', h m' hA'⟩

theorem secures_call_at {c : Call} {f : c.Reply → Work β}
    (h : ∀ m reply b, A m → m.broker.perform m.now c = (reply, b) →
      T.Secures i Q (f reply) (m.called i c reply b)) : T.Secures i Q (Work.call c >>= f) m := by
  apply secures_call
  intro m' hdrift
  have hA' := lasts_drift hlasts hdrift hA
  exact ⟨hsafe m' hA', fun reply b hperform _ => h m' reply b hA' hperform⟩

theorem secures_look_at {r : Request} {f : r.Answer → Work β}
    (h : ∀ m, A m → ∃ a, m.look r = some a ∧ T.Secures i Q (f a) (m.idled i (r.deed a))) :
    T.Secures i Q (Work.ask r >>= f) m := by
  apply secures_look
  intro m' hdrift
  have hA' := lasts_drift hlasts hdrift hA
  exact ⟨hsafe m' hA', h m' hA'⟩

theorem secures_rest_at {millis ticket : Nat} {f : Bool → Work β}
    (h : ∀ m, A m → T.calm m ∧ T.resting (m.own i) ∧
      ∀ early, (early = true → ticket < m.signal.rounds) →
        T.Secures i Q (f early) (m.idled i (.rested early))) :
    T.Secures i Q (Work.restUnlessInterrupted millis ticket >>= f) m := by
  apply secures_rest
  intro m' hdrift
  have hA' := lasts_drift hlasts hdrift hA
  exact ⟨hsafe m' hA', h m' hA'⟩

end Lasting

end Terms

end Sluice
