import Sluice.Proofs.Admission.Browsers

/-! # Whom signals reach

Any number of waits for capacity go on at one station, while somebody else raises its signal at
times at which nobody is about to look at a depth. An interruption ends the rests that are under way
and is forgotten; shutting the station down ends them too, and lets everybody through who comes
later. Nobody is let through for any other reason, and whoever is has closed its browser.
-/

namespace Sluice

/-- A station that was shut down: nothing is asked but whether it was. -/
def Agreement.shut : Agreement where
  may r := r = .isShutDown
  answers
    | .isShutDown, down => down = true
    | _, _ => True

/-- A station at which there was a number of interruptions and will be no more: rests are not ended
with tickets that are drawn now. -/
def Agreement.undisturbed (rounds : Nat) : Agreement where
  may r := r.isInside = true ∧
    ∀ millis ticket, r = .rest millis ticket → ∃ drawn, ticket = some drawn ∧ rounds ≤ drawn
  answers
    | .isShutDown, down => down = false
    | .enlist, ticket => Nat.le rounds ticket
    | .rest _ _, early => early = false
    | _, _ => True

/-- How whoever comes later is let through at a station that was shut down. -/
def AdmissionConfig.refusal (c : AdmissionConfig) : Admission :=
  if c.isEnabled then .interrupted else .disabled

namespace Work

variable {c : AdmissionConfig}

theorem suits_undisturbed (rounds : Nat) :
    Suits c (.undisturbed rounds) fun x => x ≠ .ok .interrupted where
  may r hr hrest _ := by
    refine ⟨hr, ?_⟩
    rintro millis ticket rfl
    simp [Request.isRest] at hrest
  rest ticket hticket := by
    refine ⟨rfl, ?_⟩
    rintro _ _ ⟨⟩
    exact ⟨ticket, rfl, hticket⟩
  down hdown := by simp [Agreement.undisturbed] at hdown
  ended ticket _ hearly := by simp [Agreement.undisturbed] at hearly
  others _ hx := hx

theorem shut_awaitCapacity (session : Handle .session) (d : Destination) :
    (c.awaitCapacity session d).Honours .shut fun x => x = .ok c.refusal := by
  unfold AdmissionConfig.awaitCapacity AdmissionConfig.refusal
  cases c.isEnabled with
  | false => exact honours_done rfl
  | true =>
      refine honours_ask rfl fun down hdown => ?_
      obtain rfl : down = true := hdown
      exact honours_done rfl

end Work

/-- Somebody who waits for the capacity of a destination. -/
structure Wait where
  session : Handle .session
  destination : Destination

namespace Wait

/-- What a wait does, a request at a time. -/
def work (c : AdmissionConfig) (w : Wait) : Work (Except AdmissionError Admission) :=
  c.awaitCapacity w.session w.destination

/-- Any number of waits. -/
abbrev Waits := Scene Wait (Except AdmissionError Admission)

/-- The scene to which choices lead at the station of an admission controller. -/
def waits (c : AdmissionConfig) (choices : List (Choice Wait)) : Waits :=
  ({} : Waits).run (work c) choices

/-- What is true of every scene of waits. -/
structure Patient (c : AdmissionConfig) (s : Waits) : Prop where
  lockless : s.Lockless
  inside : s.Follows fun _ _ w => w.Honours .inside fun _ => True
  ticketed : s.Ticketed fun _ => Work.GivesUp c
  fresh : s.Fresh
  looksAfter : ∀ i, s.LooksAfter i

variable {c : AdmissionConfig} {s : Waits} {i : Nat}

theorem Patient.step (h : Patient c s) (choice : Choice Wait) :
    Patient c (s.step (work c) choice) where
  lockless := h.lockless.step (fun _ => Work.lockless_awaitCapacity _ _) choice
  inside := h.inside.step h.lockless.regular
    (fun _ => Work.honours_awaitCapacity Work.suits_inside _ _ rfl)
    (fun _ _ _ _ a _ _ hhonours _ => hhonours.2 a trivial) choice
  ticketed := h.ticketed.step h.lockless.regular
    (fun _ _ => Work.guarded_awaitCapacity _ _) choice
  fresh := h.fresh.step h.lockless.regular choice
  looksAfter i := (h.looksAfter i).step h.lockless.regular h.fresh
    (fun _ => Work.closesAll_awaitCapacity _ _) choice

theorem patient_waits (c : AdmissionConfig) (choices : List (Choice Wait)) :
    Patient c (waits c choices) := by
  refine Scene.run_of_step (I := Patient c) (fun _ choice h => h.step choice) ?_ choices
  exact ⟨Scene.lockless_empty, fun i state job hstate => by simp [Scene.state?] at hstate,
    Scene.ticketed_empty, Scene.fresh_empty,
    fun i => .of_unbegun Scene.fresh_empty (Nat.zero_le i)⟩

theorem waits_append (c : AdmissionConfig) (choices later : List (Choice Wait)) :
    waits c (choices ++ later) = (waits c choices).run (work c) later :=
  Scene.run_append _ _ _ _

/-! ### Whoever rests is let through -/

/-- How far a wait has come that was ended: it is woken, it closes its browser, it is through. What
it had done before is `old`. -/
inductive Released (browser : Handle .browser) (old : List Deed) (i : Nat) (s : Waits) : Prop
  | woken {deadline : Nat} {ticket : Option Nat}
      {next : Bool → Work (Except AdmissionError Admission)}
      (hstate : s.state? i = some (.resting deadline ticket next))
      (hended : s.station.signal.endedSince ticket = true)
      (hnext : next true =
        (Work.call (.closeBrowser browser) >>= fun _ => Script.done (.ok .interrupted)))
      (hdeeds : s.deeds i = old)
  | closing
      (hstate : s.state? i = some (.ready
        (Work.call (.closeBrowser browser) >>= fun _ => Script.done (.ok .interrupted))))
      (hdeeds : s.deeds i = old ++ [.rested true])
  | through (houtcome : s.outcome? i = some (.ok .interrupted))
      (hdeeds : s.deeds i = old ++ [.rested true, .operated (.call (.closeBrowser browser))])

section Released

variable {browser : Handle .browser} {old : List Deed}

/-- A signal wakes whoever rests. -/
theorem released_of_signal (h : Patient c s) (hrests : s.rests i = true) {signal : Choice Wait}
    (hsignal : signal.isSignal = true) :
    ∃ browser, Released browser (s.deeds i) i (s.step (work c) signal) := by
  obtain ⟨deadline, ticket, next, hstate⟩ :
      ∃ deadline ticket next, s.state? i = some (.resting deadline ticket next) := by
    rw [Scene.rests] at hrests
    split at hrests
    next deadline ticket next hstate => exact ⟨deadline, ticket, next, hstate⟩
    next => cases hrests
  obtain ⟨job, hjob⟩ := h.lockless.regular.job_of_state hstate
  obtain ⟨millis, -, hticket, hgivesUp, -⟩ :=
    h.ticketed _ (Nat.lt_succ_self _) i _ job hstate hjob
  obtain ⟨browser, hnext⟩ := (hgivesUp rfl).early
  have hact : signal ≠ .act i := by
    rintro rfl
    cases hsignal
  have hcancel : signal ≠ .cancel i := by
    rintro rfl
    cases hsignal
  refine ⟨browser, .woken ((Scene.state?_step_of_ne h.lockless.regular (by simp [hstate]) hact
    hcancel).trans hstate) ?_ hnext ?_⟩
  · rw [Signal.endedSince, Scene.rounds_of_signal (work c) h.lockless.regular hsignal]
    exact hticket millis ticket rfl
  · rw [Scene.deeds, Scene.own_step_of_ne (work c) h.lockless.regular hact, Scene.deeds]

/-- Whoever was woken gets through with it, unless stopped. -/
theorem Released.step (c : AdmissionConfig) (h : Released browser old i s)
    (hregular : s.Regular) {choice : Choice Wait} (hprompt : choice.isPrompt = true) :
    Released browser old i (s.step (work c) choice) := by
  have hcancel : ∀ j, choice ≠ .cancel j := by
    rintro j rfl
    cases hprompt
  have hdeeds_of_ne : choice ≠ .act i → (s.step (work c) choice).deeds i = s.deeds i :=
    fun hact => congrArg _ (Scene.own_step_of_ne (work c) hregular hact)
  cases h with
  | woken hstate hended hnext hdeeds =>
      by_cases hact : choice = .act i
      · subst hact
        obtain ⟨hanswered, hnow⟩ := hregular.answered_of_ended hstate hended
        refine .closing (hnext ▸ hnow) ?_
        rw [Scene.deeds, Scene.step, hanswered.own, List.map_append, ← Scene.deeds, hdeeds]
        rfl
      · have hraised := Scene.raised_step (work c) hregular choice
        exact .woken ((Scene.state?_step_of_ne hregular (by simp [hstate]) hact
          (hcancel i)).trans hstate) (hraised.endedSince hended) hnext
          ((hdeeds_of_ne hact).trans hdeeds)
  | closing hstate hdeeds =>
      by_cases hact : choice = .act i
      · subst hact
        obtain ⟨a, hanswered, hnow⟩ := hregular.answered_of_asked rfl (by simp) hstate
        refine .through (by rw [Scene.outcome?, Scene.step, hnow]; rfl) ?_
        rw [Scene.deeds, Scene.step, hanswered.own, List.map_append, ← Scene.deeds, hdeeds,
          List.append_assoc]
        rfl
      · exact .closing ((Scene.state?_step_of_ne hregular (by simp [hstate]) hact
          (hcancel i)).trans hstate) ((hdeeds_of_ne hact).trans hdeeds)
  | through houtcome hdeeds =>
      have hover := Scene.goesOn_of_outcome houtcome
      refine .through ?_ ?_
      · rcases Scene.outcome_step (work c) hregular houtcome choice with hsame | hstopped
        · exact hsame
        · have hstate := Scene.cancelled_of_step (work c) hregular hcancel hstopped
          simp [Scene.outcome?, hstate] at houtcome
      · exact (congrArg _ (Scene.own_step_of_over (work c) hregular hover choice)).trans hdeeds

theorem Released.canAct_or (h : Released browser old i s) :
    s.canAct i = true ∨ s.state? i = some (.finished (.ok .interrupted)) := by
  cases h with
  | woken hstate hended => exact .inl (by simp [Scene.canAct, hstate, hended])
  | closing hstate => exact .inl (Scene.canAct_of_ready hstate)
  | through houtcome =>
      rcases Scene.state_of_outcome houtcome with hstate | hstate
      · exact .inl (Scene.canAct_of_ready hstate)
      · exact .inr hstate

theorem Released.deeds_prefix (h : Released browser old i s) :
    s.deeds i <+: old ++ [.rested true, .operated (.call (.closeBrowser browser))] := by
  cases h with
  | woken hstate hended hnext hdeeds => exact hdeeds ▸ List.prefix_append _ _
  | closing hstate hdeeds =>
      rw [hdeeds]
      exact (List.prefix_append_right_inj old).mpr (List.prefix_append [_] [_])
  | through houtcome hdeeds => exact hdeeds ▸ List.prefix_refl _

end Released

/-! ### Whoever comes when the station was shut down is let through -/

/-- The station is shut down, and a wait that comes now is turned away. -/
structure TurnedAway (c : AdmissionConfig) (i : Nat) (s : Waits) : Prop where
  down : s.station.signal.isShutDown = true
  heeds : s.Heeds .shut (fun x => x = .ok c.refusal) (fun d => d = .looked true) i

namespace TurnedAway

theorem of_shutDown (h : Patient c s) (hi : s.schedule.tasks.length ≤ i) :
    TurnedAway c i (s.step (work c) .shutDown) where
  down := by
    have hstation := Scene.station_shutDown h.lockless.station
    exact congrArg (·.signal.isShutDown) hstation
  heeds := by
    refine (Scene.Heeds.of_unbegun h.fresh hi).step h.lockless.regular
      (fun _ _ => Work.shut_awaitCapacity _ _) (fun r a hgoes => ?_) .shutDown
    exact absurd hi (Nat.not_le_of_lt (Scene.lt_of_goesOn hgoes))

theorem step (h : TurnedAway c i s) (hregular : s.Regular) (choice : Choice Wait) :
    TurnedAway c i (s.step (work c) choice) where
  down := (Scene.raised_step (work c) hregular choice).isShutDown h.down
  heeds := by
    refine h.heeds.step hregular (fun _ _ => Work.shut_awaitCapacity _ _)
      (fun r a _ hmay hgives => ?_) choice
    obtain rfl : r = .isShutDown := hmay
    cases hgives with
    | met hrest hmet =>
        cases hmet
        exact ⟨h.down, congrArg Deed.looked h.down⟩

theorem canAct_of_goesOn (h : TurnedAway c i s) (hgoes : s.goesOn i = true) :
    s.canAct i = true := by
  cases hstate : s.state? i with
  | none => simp [Scene.goesOn, hstate] at hgoes
  | some state =>
      have hlifts := h.heeds.script state hstate
      cases state with
      | ready w => exact Scene.canAct_of_ready hstate
      | resting deadline ticket next =>
          obtain ⟨millis, -, hmay, -⟩ := hlifts
          cases hmay
      | inLine next => cases hlifts.1
      | finished x => simp [Scene.goesOn, hstate, TaskState.goesOn] at hgoes
      | cancelled => simp [Scene.goesOn, hstate, TaskState.goesOn] at hgoes

end TurnedAway

/-! ### Nobody else is let through -/

/-- A wait has learned nothing of the signal, and comes back before it is told anything. -/
structure Undisturbed (i : Nat) (s : Waits) : Prop where
  heeds : s.Heeds (.undisturbed s.station.signal.rounds) (· ≠ .ok .interrupted) (·.tells = false) i
  back : s.station.signal.isShutDown = true →
    ∃ state, s.state? i = some state ∧ state.goesOn = false

namespace Undisturbed

theorem honours_work (rounds : Nat) (w : Wait) :
    (w.work c).Honours (.undisturbed rounds) (· ≠ .ok .interrupted) :=
  Work.honours_awaitCapacity (Work.suits_undisturbed rounds) _ _ ⟨rfl, by simp⟩

/-- Whoever was not disturbed learns nothing now. -/
theorem answers (h : Undisturbed i s) {r : Request} {a : r.Answer} (hgoes : s.goesOn i = true)
    (hmay : (Agreement.undisturbed s.station.signal.rounds).may r) (hgives : s.Gives i r a) :
    (Agreement.undisturbed s.station.signal.rounds).answers r a ∧
      (r.deed a).tells = false := by
  have hdown : s.station.signal.isShutDown = false := by
    rw [← Bool.not_eq_true]
    intro hdown
    obtain ⟨state, hstate, hover⟩ := h.back hdown
    simp [Scene.goesOn, hstate, hover] at hgoes
  cases hgives with
  | met hrest hmet =>
      cases hmet with
      | isShutDown => exact ⟨hdown, hdown⟩
      | enlist => exact ⟨Nat.le_refl _, rfl⟩
      | rest => cases hrest
      | _ => exact ⟨trivial, rfl⟩
  | @ended millis ticket hended =>
      obtain ⟨drawn, rfl, hle⟩ := hmay.2 millis ticket rfl
      simp only [Signal.endedSince, Option.any_some, decide_eq_true_eq] at hended
      exact absurd hended (Nat.not_lt_of_le hle)
  | elapsed hnot hover => exact ⟨rfl, rfl⟩

theorem beside (h : Undisturbed i s) (hpatient : Patient c s) {choice : Choice Wait}
    (hchoice : choice.isSignal = false) : Undisturbed i (s.step (work c) choice) := by
  have hregular := hpatient.lockless.regular
  have hsignal := Scene.signal_step (work c) hregular hpatient.inside hchoice
  refine ⟨?_, fun hdown => Scene.over_step (work c) hregular (h.back (hsignal ▸ hdown)) choice⟩
  rw [hsignal]
  exact h.heeds.step hregular (fun _ => honours_work _) (fun r a => h.answers) choice

/-- A signal does not reach whoever has come back. -/
theorem signal (h : Undisturbed i s) (hpatient : Patient c s) {choice : Choice Wait}
    (hgoes : s.goesOn i = false) (hchoice : choice.isSignal = true)
    (hover : choice = .shutDown → ∃ state, s.state? i = some state ∧ state.goesOn = false) :
    Undisturbed i (s.step (work c) choice) := by
  have hregular := hpatient.lockless.regular
  refine ⟨?_, fun hdown => ?_⟩
  · rw [Scene.rounds_of_signal (work c) hregular hchoice]
    refine (h.heeds.of_over hgoes).step hregular (fun _ => honours_work _)
      (fun r a hgoes' => ?_) choice
    simp [hgoes] at hgoes'
  · refine Scene.over_step (work c) hregular ?_ choice
    cases choice with
    | shutDown => exact hover rfl
    | interrupt =>
        have hstation := congrArg (·.signal.isShutDown) (Scene.station_interrupt hregular.station)
        exact h.back (hstation.symm.trans hdown)
    | _ => cases hchoice

end Undisturbed

/-- A signal reached a wait: it rested when it was interrupted, or it had not come back when the
station was shut down. -/
def Reached (c : AdmissionConfig) (choices : List (Choice Wait)) (i : Nat) : Prop :=
  ∃ before signal later, choices = before ++ signal :: later ∧
    ((signal = .interrupt ∧ (waits c before).rests i = true) ∨
      (signal = .shutDown ∧ (waits c before).outcome? i = none))

theorem Reached.append {choices : List (Choice Wait)} (h : Reached c choices i)
    (later : List (Choice Wait)) : Reached c (choices ++ later) i := by
  obtain ⟨before, signal, rest, rfl, hreached⟩ := h
  exact ⟨before, signal, rest ++ later, by simp, hreached⟩

/-- If nobody is busy, whoever was told of no signal has come back or rests. -/
theorem Undisturbed.goesOn_eq_rests (h : Undisturbed i s) (hlockless : s.Lockless)
    (hbusy : s.isBusy i = false) : s.goesOn i = s.rests i := by
  rw [Scene.goesOn, Scene.rests]
  cases hstate : s.state? i with
  | none => rfl
  | some state =>
      cases state with
      | ready w =>
          cases w with
          | done x => rfl
          | ask r next =>
              have htold : (s.deeds i).any Deed.tells = true := by
                simpa [Scene.isBusy, hstate] using hbusy
              obtain ⟨d, hd, htells⟩ := List.any_eq_true.mp htold
              simp [h.heeds.deeds d hd] at htells
      | inLine next => exact absurd hstate hlockless.not_inLine
      | _ => rfl

/-- Whoever was reached by no signal is not disturbed. -/
theorem undisturbed_waits {choices : List (Choice Wait)}
    (hcalm : ({} : Waits).isCalm (work c) choices = true) (hnever : ¬ Reached c choices i) :
    Undisturbed i (waits c choices) := by
  -- from the end: a signal that comes last spares whom no signal reached before
  induction choices using List.reverseRecOn with
  | nil =>
      refine ⟨.of_unbegun Scene.fresh_empty (Nat.zero_le i), fun hdown => ?_⟩
      cases (show false = true from hdown)
  | append_singleton before choice ih =>
      have hcalm' : ({} : Waits).isCalm (work c) before = true := by
        rw [Scene.isCalm_append, Bool.and_eq_true] at hcalm
        exact hcalm.1
      have hundisturbed := ih hcalm' fun h => hnever (h.append [choice])
      have hpatient := patient_waits c before
      rw [waits_append]
      cases hchoice : choice.isSignal with
      | false => exact hundisturbed.beside hpatient hchoice
      | true =>
          have hspared : ¬ ((choice = .interrupt ∧ (waits c before).rests i = true) ∨
              (choice = .shutDown ∧ (waits c before).outcome? i = none)) :=
            fun h => hnever ⟨before, choice, [], rfl, h⟩
          cases choice with
          | interrupt =>
              have hgoes : (waits c before).goesOn i = false := by
                rw [hundisturbed.goesOn_eq_rests hpatient.lockless
                  (Scene.isBusy_of_isCalm hcalm hchoice i)]
                simpa using hspared
              exact hundisturbed.signal hpatient hgoes hchoice (by simp)
          | shutDown =>
              obtain ⟨x, hx⟩ : ∃ x, (waits c before).outcome? i = some x := by
                rw [← Option.ne_none_iff_exists']
                simpa using hspared
              have hgoes := Scene.goesOn_of_outcome hx
              refine hundisturbed.signal hpatient hgoes hchoice fun _ => ?_
              rcases Scene.state_of_outcome hx with hstate | hstate <;>
                exact ⟨_, hstate, rfl⟩
          | _ => cases hchoice

/-! ### Signals at calm times -/

/-- Signals reach those whom they are to reach, and nobody else. -/
structure SignalsReach (c : AdmissionConfig) (choices : List (Choice Wait)) : Prop where
  /-- Whoever rests when a signal is raised is let through before time passes, and does nothing more
  but close a browser. -/
  ended : ∀ before signal later, choices = before ++ signal :: later → signal.isSignal = true →
    (∀ choice ∈ later, choice.isPrompt = true) →
      (waits c choices).schedule.now = (waits c before).schedule.now ∧
        ∀ i, (waits c before).rests i = true →
          ((waits c choices).canAct i = true ∨
            (waits c choices).state? i = some (.finished (.ok .interrupted))) ∧
          ∃ browser, (waits c choices).deeds i <+: (waits c before).deeds i ++
            [.rested true, .operated (.call (.closeBrowser browser))]
  /-- Nobody can go on and on without time passing, and in the end nobody can go on. -/
  prompt : Acc Scene.Onward (waits c choices)
  settles : ∃ turns : List Nat, (waits c (choices ++ turns.map .act)).isStill = true
  /-- Whoever comes later finds the station shut down, waits for nothing, and asks for nothing. -/
  refused : ∀ before later, choices = before ++ .shutDown :: later →
    ∀ i, (waits c before).schedule.tasks.length ≤ i →
      (∀ d ∈ (waits c choices).deeds i, d = .looked true) ∧
        ((waits c choices).goesOn i = true → (waits c choices).canAct i = true) ∧
        ∀ x, (waits c choices).outcome? i = some x →
          x = .ok (if c.isEnabled then .interrupted else .disabled)
  /-- Whoever is interrupted, or only told of a signal, was reached by one. -/
  reached : ∀ i, ((waits c choices).outcome? i = some (.ok .interrupted) ∨
    .rested true ∈ (waits c choices).deeds i ∨ .looked true ∈ (waits c choices).deeds i) →
      Reached c choices i
  /-- Whoever has come back has closed what was given for the wait. -/
  closed : ∀ i, ((waits c choices).outcome? i).isSome →
    ∀ handle ∈ (waits c choices).given i, (waits c choices).broker.isOpen handle = false

/-- Whoever rests when a signal is raised is woken, and no time passes as long as nobody lets it. -/
theorem released_waits (c : AdmissionConfig) (before : List (Choice Wait)) {signal : Choice Wait}
    {later : List (Choice Wait)} (hsignal : signal.isSignal = true)
    (hlater : ∀ choice ∈ later, choice.isPrompt = true) :
    (waits c (before ++ signal :: later)).schedule.now = (waits c before).schedule.now ∧
      ∀ i, (waits c before).rests i = true → ∃ browser,
        Released browser ((waits c before).deeds i) i (waits c (before ++ signal :: later)) := by
  induction later using List.reverseRecOn with
  | nil =>
      have hpatient := patient_waits c before
      rw [waits_append]
      refine ⟨Scene.now_step hpatient.lockless.regular ?_, fun i hrests =>
        released_of_signal hpatient hrests hsignal⟩
      rintro millis rfl
      cases hsignal
  | append_singleton later choice ih =>
      have hprompt := hlater choice (List.mem_append_right _ List.mem_cons_self)
      obtain ⟨hnow, hreleased⟩ := ih fun choice hmem => hlater choice (List.mem_append_left _ hmem)
      have hregular := (patient_waits c (before ++ signal :: later)).lockless.regular
      rw [← List.cons_append, ← List.append_assoc, waits_append]
      refine ⟨(Scene.now_step hregular ?_).trans hnow, fun i hrests => ?_⟩
      · rintro millis rfl
        cases hprompt
      · obtain ⟨browser, h⟩ := hreleased i hrests
        exact ⟨browser, h.step c hregular hprompt⟩

/-- Whoever was not there when the station was shut down is turned away. -/
theorem turnedAway_waits (c : AdmissionConfig) {before : List (Choice Wait)}
    (later : List (Choice Wait)) (hi : (waits c before).schedule.tasks.length ≤ i) :
    TurnedAway c i (waits c (before ++ .shutDown :: later)) := by
  induction later using List.reverseRecOn with
  | nil =>
      rw [waits_append]
      exact .of_shutDown (patient_waits c before) hi
  | append_singleton later choice ih =>
      rw [← List.cons_append, ← List.append_assoc, waits_append]
      exact ih.step (patient_waits c _).lockless.regular choice

/-- If nobody is about to look at a depth when signals are raised, they reach those whom they are to
reach, and nobody else. -/
theorem signals_reach (c : AdmissionConfig) (choices : List (Choice Wait))
    (hcalm : ({} : Waits).isCalm (work c) choices = true) : SignalsReach c choices := by
  have hlockless := (patient_waits c choices).lockless
  refine {
    ended := ?_
    prompt := hlockless.acc_onward
    settles := ?_
    refused := ?_
    reached := fun i htold => ?_
    closed := fun i hback => ?_ }
  · rintro before signal later rfl hsignal hlater
    obtain ⟨hnow, hreleased⟩ := released_waits c before hsignal hlater
    refine ⟨hnow, fun i hrests => ?_⟩
    obtain ⟨browser, h⟩ := hreleased i hrests
    exact ⟨h.canAct_or, browser, h.deeds_prefix⟩
  · simp only [waits_append]
    exact hlockless.leads_still (work c)
  · rintro before later rfl i hi
    have h := turnedAway_waits c later hi
    exact ⟨h.heeds.deeds, h.canAct_of_goesOn, fun x hx => h.heeds.outcome hx⟩
  · by_contra hnever
    have h := undisturbed_waits hcalm hnever
    rcases htold with houtcome | hrested | hlooked
    · exact h.heeds.outcome houtcome rfl
    · exact absurd (h.heeds.deeds _ hrested) (by simp [Deed.tells])
    · exact absurd (h.heeds.deeds _ hlooked) (by simp [Deed.tells])
  · obtain ⟨x, hx⟩ := Option.isSome_iff_exists.mp hback
    exact ((patient_waits c choices).looksAfter i).closed hx

/-- Two rest at a full queue when they are interrupted in the middle of a poll interval; a third
comes later and rests when it is interrupted and the station is shut down at once, and a fourth
comes after that. -/
def signalled : List (Choice Wait) :=
  let wait : Choice Wait := .begin ⟨⟨0⟩, .queue "orders"⟩
  List.flatten [
    [.operate (.declare (.queue "orders")), .operate (.call (.createConnection none)),
      .operate (.call (.createSession ⟨0⟩ false .auto)),
      .operate (.inject (.queue "orders") { body := .text "first" })],
    wait :: List.replicate 8 (.act 0), wait :: List.replicate 8 (.act 1), [.pass 3, .interrupt],
    List.replicate 3 (.act 1), List.replicate 3 (.act 0), wait :: List.replicate 8 (.act 2),
    [.pass 1, .interrupt, .shutDown], List.replicate 3 (.act 2), [wait, .act 3, .act 3]]

set_option maxRecDepth 8000 in
theorem signals_reach_signalled :
    ({} : Waits).isCalm (work .narrow) signalled = true ∧ SignalsReach .narrow signalled ∧
      (List.range 4).map (waits .narrow signalled).outcome? =
        List.replicate 4 (some (.ok .interrupted)) ∧
      (waits .narrow signalled).deeds 3 = [.looked true] ∧
      (waits .narrow signalled).given 0 = [⟨.browser, 0⟩] := by
  have hcalm : ({} : Waits).isCalm (work .narrow) signalled = true := rfl
  exact ⟨hcalm, signals_reach .narrow signalled hcalm, rfl, rfl, rfl⟩

end Wait

end Sluice
