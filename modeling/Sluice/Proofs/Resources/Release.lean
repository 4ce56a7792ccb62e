import Mathlib.Data.List.Nodup
import Sluice.Proofs.Resources.Attempts

/-! # Whatever is opened is closed

A manager is started and closed with anybody to answer: each call succeeds or fails as it likes, and
so does each look into the directory. Starting attempts to open everything; releasing a manager that
is ready closes everything once, and later nothing is left to close.
-/

namespace Sluice

/-- A request and the answer to it. -/
structure Exchange where
  request : Request
  answer : request.Answer

/-- Somebody who answers every request as he likes, knowing all that was answered before. -/
abbrev Oracle := List Exchange → (r : Request) → r.Answer

/-- A manager, and what was answered to it so far. -/
structure Attended where
  manager : Manager := {}
  past : List Exchange := []

namespace Attended

/-- The manager keeps itself in mind; everything else is answered by somebody else. -/
def reply (oracle : Oracle) (s : Attended) : (r : Request) → r.Answer
  | .manager => s.manager
  | r => oracle s.past r

/-- What there is once a request is answered. -/
def answered (s : Attended) (r : Request) (answer : r.Answer) : Attended where
  manager := match r with
    | .keep m => m
    | _ => s.manager
  past := s.past ++ [⟨r, answer⟩]

/-- Work is carried out to the end. -/
def run {α : Type} (oracle : Oracle) (w : Work α) (s : Attended) : α × Attended :=
  w.answeredIn (m := StateM Attended)
    (fun r s => (s.reply oracle r, s.answered r (s.reply oracle r))) s

/-- The calls that were made, the first one first. -/
def calls (s : Attended) : List Replied :=
  s.past.filterMap fun e =>
    match e with
    | ⟨.call c, reply⟩ => some ⟨c, reply⟩
    | _ => none

/-- What was found in the directory. -/
def found (s : Attended) : List (Except NamingError Entry) :=
  s.past.filterMap fun e =>
    match e with
    | ⟨.lookup _ _, found⟩ => some found
    | _ => none

/-- The manager is closed a number of times. -/
def closeTimes (oracle : Oracle) : Nat → Attended → Attended
  | 0, s => s
  | n + 1, s => (s.run oracle Manager.close).2.closeTimes oracle n

end Attended

/-! ### Carrying work out -/

namespace Attended

variable {α β : Type} {oracle : Oracle} {s s' s'' : Attended}

/-- Work ends with an assertion about its result and what there is then. -/
def Ends (oracle : Oracle) (Q : α → Attended → Prop) (w : Work α) (s : Attended) : Prop :=
  Q (s.run oracle w).1 (s.run oracle w).2

theorem Ends.mono {Q Q' : α → Attended → Prop} {w : Work α} (h : Ends oracle Q w s)
    (hpost : ∀ x s', Q x s' → Q' x s') : Ends oracle Q' w s :=
  hpost _ _ h

theorem Ends.bind {Q : β → Attended → Prop} {w : Work α} {f : α → Work β}
    (h : Ends oracle (fun x s' => Ends oracle Q (f x) s') w s) : Ends oracle Q (w >>= f) s := by
  rw [Ends, run, Script.answeredIn_bind]
  exact h

theorem ends_done {Q : α → Attended → Prop} {x : α} (h : Q x s) :
    Ends oracle Q (Script.done x) s :=
  h

/-- A call may be replied to in any way. -/
theorem ends_call {Q : β → Attended → Prop} {c : Call} {f : c.Reply → Work β}
    (h : ∀ reply, Ends oracle Q (f reply) (s.answered (.call c) reply)) :
    Ends oracle Q (Work.call c >>= f) s :=
  h _

theorem ends_tryCall {Q : β → Attended → Prop} {c : Call} {f : Unit → Work β}
    (h : ∀ reply, Ends oracle Q (f ()) (s.answered (.call c) reply)) :
    Ends oracle Q (Manager.tryCall c >>= f) s :=
  h _

theorem ends_lookup {Q : β → Attended → Prop} {name : String} {properties : Properties}
    {f : Except NamingError Entry → Work β}
    (h : ∀ found, Ends oracle Q (f found) (s.answered (.lookup name properties) found)) :
    Ends oracle Q (Work.lookup name properties >>= f) s :=
  h _

theorem ends_manager {Q : β → Attended → Prop} {f : Manager → Work β}
    (h : Ends oracle Q (f s.manager) (s.answered .manager s.manager)) :
    Ends oracle Q (Work.manager >>= f) s :=
  h

theorem ends_keep {Q : β → Attended → Prop} {m : Manager} {f : Unit → Work β}
    (h : Ends oracle Q (f ()) (s.answered (.keep m) ())) : Ends oracle Q (Work.keep m >>= f) s :=
  h

/-- Names were looked up and calls were made, and the manager is the same. -/
structure Made (found : List (Except NamingError Entry)) (calls : List Replied)
    (s s' : Attended) : Prop where
  manager : s'.manager = s.manager
  found : s'.found = s.found ++ found
  calls : s'.calls = s.calls ++ calls

namespace Made

variable {found found' : List (Except NamingError Entry)} {calls calls' : List Replied}

theorem refl (s : Attended) : Made [] [] s s :=
  ⟨rfl, (List.append_nil _).symm, (List.append_nil _).symm⟩

theorem trans (h : Made found calls s s') (h' : Made found' calls' s' s'') :
    Made (found ++ found') (calls ++ calls') s s'' where
  manager := h'.manager.trans h.manager
  found := by rw [h'.found, h.found, List.append_assoc]
  calls := by rw [h'.calls, h.calls, List.append_assoc]

theorem call (h : Made found calls s s') (c : Call) (reply : c.Reply) :
    Made found (calls ++ [⟨c, reply⟩]) s (s'.answered (.call c) reply) where
  manager := h.manager
  found := by
    rw [← h.found]
    simp [Attended.found, answered]
  calls := by
    rw [← List.append_assoc, ← h.calls]
    simp [Attended.calls, answered]

theorem lookup (h : Made found calls s s') (name : String) (properties : Properties)
    (entry : Except NamingError Entry) :
    Made (found ++ [entry]) calls s (s'.answered (.lookup name properties) entry) where
  manager := h.manager
  found := by
    rw [← List.append_assoc, ← h.found]
    simp [Attended.found, answered]
  calls := by
    rw [← h.calls]
    simp [Attended.calls, answered]

end Made

theorem calls_manager (s : Attended) (m : Manager) : (s.answered .manager m).calls = s.calls := by
  simp [calls, answered]

theorem calls_keep (s : Attended) (m : Manager) : (s.answered (.keep m) ()).calls = s.calls := by
  simp [calls, answered]

theorem found_keep (s : Attended) (m : Manager) : (s.answered (.keep m) ()).found = s.found := by
  simp [found, answered]

end Attended

namespace Manager

open Attended

variable {oracle : Oracle} {α : Type} {s : Attended} {d : Destination}

/-- An attempt at steps is made, and what is held in the end belongs to the result. -/
def Attempted (d : Destination) (steps : List AcquisitionStep) (held : α → List AnyHandle)
    (s : Attended) (r : Except ConfigurationError α) (s' : Attended) : Prop :=
  ∃ calls, Made [] calls s s' ∧ Attempt d [] steps calls (r.map held)

theorem ends_openProducer (settings : ConnectionSettings) (session : Handle .session)
    (d : Destination) (s : Attended) :
    Ends oracle (Attempted d [.createProducer, .applySettings] (fun p => [p.any]) s)
      (openProducer settings session d) s := by
  have hstart := Made.refl s
  apply ends_call
  intro reply
  cases reply with
  | error cause => exact ends_done ⟨_, hstart.call _ _, .failed _ rfl rfl⟩
  | ok p =>
      apply ends_call
      intro reply
      cases reply with
      | ok u =>
          exact ends_done ⟨_, (hstart.call _ _).call _ _,
            .made _ rfl rfl (.made _ rfl rfl (.finished _))⟩
      | error cause =>
          apply ends_tryCall
          intro reply
          exact ends_done ⟨_, ((hstart.call _ _).call _ _).call _ _,
            .made _ rfl rfl (.failed _ rfl rfl)⟩

theorem ends_openSession (settings : ConnectionSettings) (connection : Handle .connection)
    (d : Destination) (s : Attended) :
    Ends oracle
      (Attempted d [.createSession, .createProducer, .applySettings, .startConnection]
        (fun pair => [pair.2.any, pair.1.any]) s)
      (openSession settings connection d) s := by
  have hstart := Made.refl s
  apply ends_call
  intro reply
  cases reply with
  | error cause => exact ends_done ⟨_, hstart.call _ _, .failed _ rfl rfl⟩
  | ok session =>
      change Handle .session at session
      apply Ends.bind
      apply (ends_openProducer settings session d _).mono
      rintro x s' ⟨calls, hmade, hattempt⟩
      have hupto := (hstart.call _ _).trans hmade
      cases x with
      | error e =>
          apply ends_tryCall
          intro reply
          have hclosed : Unwinds [session.any] [⟨.closeSession session, reply⟩] := rfl
          exact ends_done ⟨_, hupto.call _ _,
            .made _ rfl rfl (hattempt.unwound hclosed [.startConnection])⟩
      | ok p =>
          have hheld := hattempt.under [session.any]
          apply ends_call
          intro reply
          cases reply with
          | ok u =>
              have hdone := hheld.append (.made ⟨.startConnection connection, .ok u⟩ rfl rfl
                (.finished _))
              exact ends_done ⟨_, hupto.call _ _, .made _ rfl rfl hdone⟩
          | error cause =>
              apply ends_tryCall
              intro first
              apply ends_tryCall
              intro last
              have hclosed : Unwinds [p.any, session.any]
                [⟨.closeProducer p, first⟩, ⟨.closeSession session, last⟩] := rfl
              have hstopped : Attempt d [p.any, session.any] [.startConnection] _ _ :=
                .failed ⟨.startConnection connection, .error cause⟩ rfl hclosed
              have hlast := ((hupto.call (.startConnection connection) (.error cause)).call
                (.closeProducer p) first).call (.closeSession session) last
              simp only [List.append_assoc] at hlast
              exact ends_done ⟨_, hlast, .made _ rfl rfl (hheld.append hstopped)⟩

/-- The steps of an acquisition, in their order. -/
def acquisition : List AcquisitionStep :=
  [.openConnection, .createSession, .createProducer, .applySettings, .startConnection]

/-- The handles of resources, the last one opened first. -/
def handlesOf (held : Resources) : List AnyHandle :=
  [held.producer.any, held.session.any, held.connection.any]

theorem ends_openResources (settings : ConnectionSettings) (d : Destination) (s : Attended) :
    Ends oracle (Attempted d acquisition handlesOf s) (openResources settings d) s := by
  have hstart := Made.refl s
  apply ends_call
  intro reply
  cases reply with
  | error cause => exact ends_done ⟨_, hstart.call _ _, .failed _ rfl rfl⟩
  | ok connection =>
      change Handle .connection at connection
      apply Ends.bind
      apply (ends_openSession settings connection d _).mono
      rintro x s' ⟨calls, hmade, hattempt⟩
      have hupto := (hstart.call _ _).trans hmade
      cases x with
      | error e =>
          apply ends_tryCall
          intro reply
          have hclosed : Unwinds [connection.any] [⟨.closeConnection connection, reply⟩] := rfl
          exact ends_done ⟨_, hupto.call _ _, .made _ rfl rfl (hattempt.unwound hclosed [])⟩
      | ok pair =>
          exact ends_done ⟨_, hupto, .made _ rfl rfl (hattempt.under [connection.any])⟩

/-- What an acquisition comes to: nothing is called before both names are resolved, and then
everything is attempted. -/
def Obtained (found : List (Except NamingError Entry)) (calls : List Replied)
    (r : Except ConfigurationError Resources) : Prop :=
  match found with
  | [.ok (.destination d), .ok .connectionFactory] =>
      Attempt d [] acquisition calls (r.map handlesOf)
  | _ => calls = [] ∧ ∃ e, r = .error e

theorem Obtained.cases {found : List (Except NamingError Entry)} {calls : List Replied}
    {r : Except ConfigurationError Resources} (h : Obtained found calls r) :
    (∃ d, Attempt d [] acquisition calls (r.map handlesOf)) ∨
      (calls = [] ∧ ∃ e, r = .error e) := by
  unfold Obtained at h
  split at h
  next d => exact .inl ⟨d, h⟩
  next => exact .inr h

theorem ends_acquire (config : Config) (files : Files) (defaults : Properties) (s : Attended) :
    Ends oracle (fun r s' => ∃ found calls, Made found calls s s' ∧ Obtained found calls r)
      (acquire config files defaults) s := by
  have hstart := Made.refl s
  unfold acquire
  split
  next => exact ends_done ⟨_, _, hstart, rfl, _, rfl⟩
  next name _ =>
    split
    next => exact ends_done ⟨_, _, hstart, rfl, _, rfl⟩
    next properties _ =>
      unfold resolveDestination resolveFactory
      rw [bind_assoc]
      apply ends_lookup
      intro found
      have hfirst := hstart.lookup name properties found
      cases found with
      | error cause => exact ends_done ⟨_, _, hfirst, rfl, _, rfl⟩
      | ok entry =>
          cases entry with
          | connectionFactory => exact ends_done ⟨_, _, hfirst, rfl, _, rfl⟩
          | destination d =>
              apply ends_lookup
              intro found
              have hsecond := hfirst.lookup config.connection.factoryName properties found
              cases found with
              | error cause => exact ends_done ⟨_, _, hsecond, rfl, _, rfl⟩
              | ok entry =>
                  cases entry with
                  | destination d' => exact ends_done ⟨_, _, hsecond, rfl, _, rfl⟩
                  | connectionFactory =>
                      apply (ends_openResources config.connection d _).mono
                      rintro r s' ⟨calls, hmade, hattempt⟩
                      exact ⟨_, _, hsecond.trans hmade, hattempt⟩

/-- What a manager is once it was started for the first time. -/
def started : Except ConfigurationError Resources → Manager
  | .ok held => { state := .ready, held := some held }
  | .error _ => { state := .failed }

theorem ends_start (oracle : Oracle) (config : Config) (files : Files) (defaults : Properties) :
    Ends oracle
      (fun r s' => ∃ x : Except ConfigurationError Resources, r = x.map (fun _ => ()) ∧
        s'.manager = started x ∧ Obtained s'.found s'.calls x)
      (start config files defaults) {} := by
  apply ends_manager
  apply ends_keep
  apply Ends.bind
  apply (ends_acquire config files defaults _).mono
  rintro x s' ⟨found, calls, hmade, hobtained⟩
  have hfound : s'.found = found := hmade.found
  have hcalls : s'.calls = calls := hmade.calls
  cases x with
  | ok held =>
      apply ends_keep
      refine ends_done ⟨.ok held, rfl, rfl, ?_⟩
      rw [found_keep, calls_keep, hfound, hcalls]
      exact hobtained
  | error e =>
      apply ends_keep
      refine ends_done ⟨.error e, rfl, rfl, ?_⟩
      rw [found_keep, calls_keep, hfound, hcalls]
      exact hobtained

/-- A manager that holds nothing closes nothing. -/
theorem ends_close_idle (oracle : Oracle) (h : s.manager.held = none) :
    Ends oracle (fun _ s' => s'.manager.held = none ∧ s'.calls = s.calls) close s := by
  apply ends_manager
  split
  next => exact ends_done ⟨h, calls_manager s _⟩
  next =>
    apply ends_keep
    rw [h]
    apply ends_keep
    refine ends_done ⟨rfl, ?_⟩
    rw [calls_keep, calls_keep, calls_manager]

/-- Releasing stops the connection and closes all that is held, the last handle first. -/
def Released (held : Resources) (calls : List Replied) : Prop :=
  ∃ stopped first second third,
    calls = [⟨.stopConnection held.connection, stopped⟩,
      ⟨.closeProducer held.producer, first⟩, ⟨.closeSession held.session, second⟩,
      ⟨.closeConnection held.connection, third⟩]

theorem ends_release (held : Resources) (s : Attended) :
    Ends oracle (fun _ s' => ∃ calls, Made [] calls s s' ∧ Released held calls)
      (release held) s := by
  have hstart := Made.refl s
  unfold release
  apply ends_tryCall
  intro stopped
  apply ends_tryCall
  intro first
  apply ends_tryCall
  intro second
  apply ends_call
  intro third
  exact ends_done ⟨_, (((hstart.call _ stopped).call _ first).call _ second).call _ third,
    stopped, first, second, third, rfl⟩

theorem ends_close_ready (oracle : Oracle) {held : Resources}
    (h : s.manager = { state := .ready, held := some held }) :
    Ends oracle
      (fun _ s' => s'.manager.held = none ∧ ∃ calls, s'.calls = s.calls ++ calls ∧
        Released held calls)
      close s := by
  apply ends_manager
  rw [h, if_neg (by simp)]
  apply ends_keep
  apply Ends.bind
  apply (ends_release held _).mono
  rintro - s' ⟨calls, hmade, hreleased⟩
  apply ends_keep
  refine ends_done ⟨rfl, calls, ?_, hreleased⟩
  rw [calls_keep, hmade.calls, calls_keep, calls_manager]

end Manager

namespace Attended

variable {oracle : Oracle} {s : Attended}

theorem calls_closeTimes_idle (h : s.manager.held = none) (n : Nat) :
    (s.closeTimes oracle n).calls = s.calls := by
  induction n generalizing s with
  | zero => rfl
  | succ n ih =>
      obtain ⟨hheld, hcalls⟩ : _ ∧ _ := Manager.ends_close_idle oracle h
      exact (ih hheld).trans hcalls

/-- Whatever is given out is closed once, the last handle first, and nothing is called with it after
that. -/
structure Tidy (calls : List Replied) : Prop where
  distinct : (calls.flatMap Replied.opened).Nodup
  reverse : calls.flatMap Replied.closed = (calls.flatMap Replied.opened).reverse
  silent : Silent calls

/-- Steps are made in their order until one fails, after which nothing is called but what closes
handles; the result is that of the step that failed. -/
structure Orderly (d : Destination) (calls : List Replied) (r : Except ConfigurationError Unit) :
    Prop where
  order : stepsOf calls <+: Manager.acquisition
  stops : calls.Pairwise fun earlier later =>
    earlier.failure?.isSome → later.call.closes.isSome
  result : r = verdict d calls
  complete : r = .ok () → stepsOf calls = Manager.acquisition

theorem nodup_opened {d : Destination} {calls : List Replied}
    {r : Except ConfigurationError (List AnyHandle)}
    (h : Attempt d [] Manager.acquisition calls r) : (calls.flatMap Replied.opened).Nodup :=
  List.Nodup.of_map AnyHandle.kind (h.kinds_sublist.nodup (by decide))

theorem orderly_of_attempt {d : Destination} {calls : List Replied}
    {x : Except ConfigurationError Resources}
    (h : Attempt d [] Manager.acquisition calls (x.map Manager.handlesOf)) :
    Orderly d calls (x.map fun _ => ()) where
  order := h.steps_prefix
  stops := h.stops
  result := by
    rw [h.verdict_eq]
    cases x <;> rfl
  complete hok := by
    cases x with
    | error e => cases hok
    | ok held => exact h.of_ok.2

theorem orderly_of_obtained {found : List (Except NamingError Entry)} {calls : List Replied}
    {x : Except ConfigurationError Resources} (h : Manager.Obtained found calls x) :
    match (motive := List (Except NamingError Entry) → Prop) found with
    | [.ok (.destination d), .ok .connectionFactory] => Orderly d calls (x.map fun _ => ())
    | _ => calls = [] ∧ x.map (fun _ => ()) ≠ .ok () := by
  unfold Manager.Obtained at h
  split at h
  next d => exact orderly_of_attempt h
  next =>
    obtain ⟨hcalls, e, rfl⟩ := h
    exact ⟨hcalls, by simp [Except.map]⟩

theorem tidy_nil : Tidy [] := ⟨List.nodup_nil, rfl, List.Pairwise.nil⟩

theorem tidy_of_failed {d : Destination} {calls : List Replied} {e : ConfigurationError}
    (h : Attempt d [] Manager.acquisition calls (.error e)) : Tidy calls := by
  have hdistinct := nodup_opened h
  have hreverse : calls.flatMap Replied.closed = (calls.flatMap Replied.opened).reverse := by
    simpa [Except.toOption] using h.settled
  exact ⟨hdistinct, hreverse, h.silent (hreverse ▸ List.nodup_reverse.2 hdistinct)⟩

theorem tidy_of_released {d : Destination} {calls calls' : List Replied} {held : Resources}
    (h : Attempt d [] Manager.acquisition calls (.ok (Manager.handlesOf held)))
    (h' : Manager.Released held calls') : Tidy (calls ++ calls') := by
  obtain ⟨stopped, first, second, third, rfl⟩ := h'
  have hdistinct := nodup_opened h
  have hcloses : Unwinds (Manager.handlesOf held) [⟨.closeProducer held.producer, first⟩,
    ⟨.closeSession held.session, second⟩, ⟨.closeConnection held.connection, third⟩] := rfl
  obtain ⟨hclosed, -⟩ := h.of_ok
  have hheld : Manager.handlesOf held = (calls.flatMap Replied.opened).reverse := by
    simpa [Except.toOption, hclosed] using h.settled
  refine ⟨?_, ?_, ?_⟩
  · rw [List.flatMap_append, List.flatMap_cons, hcloses.opened]
    simpa [Replied.opened, Call.opened] using hdistinct
  · rw [List.flatMap_append, List.flatMap_cons, hclosed, hcloses.closed, List.flatMap_append,
      List.flatMap_cons, hcloses.opened, hheld]
    simp [Replied.opened, Call.opened, Replied.closed, Call.closes]
  · refine List.pairwise_append.mpr ⟨h.silent (by simp [hclosed]), ?_, ?_⟩
    · refine List.pairwise_cons.mpr ⟨by simp [Replied.closed, Call.closes], hcloses.silent ?_⟩
      exact hheld ▸ List.nodup_reverse.2 hdistinct
    · intro earlier hearlier later _ k hk
      have hmem : k ∈ calls.flatMap Replied.closed :=
        List.mem_flatMap.mpr ⟨earlier, hearlier, hk⟩
      rw [hclosed] at hmem
      cases hmem

/-- A manager is started and then closed at least once, whatever is answered. When both names are
resolved everything is attempted in order, and otherwise nothing is called. In the end all that was
given out is closed. After a start that failed nothing was stopped and nothing is left to close;
after one that went well the connection is stopped and everything closed by the first closing, and
nothing is called later. -/
theorem tidy_in_the_end (oracle : Oracle) (config : Config) (files : Files) (defaults : Properties)
    (n : Nat) :
    let (r, started) := ({} : Attended).run oracle (Manager.start config files defaults)
    let closed := started.closeTimes oracle (n + 1)
    (match started.found with
      | [.ok (.destination d), .ok .connectionFactory] => Orderly d started.calls r
      | _ => started.calls = [] ∧ r ≠ .ok ()) ∧
      Tidy closed.calls ∧
      (r ≠ .ok () → closed.calls = started.calls ∧
        ∀ e ∈ closed.calls, ∀ c, e.call ≠ .stopConnection c) ∧
      (r = .ok () → ∃ held, started.manager.held = some held ∧
        closed.calls.map Replied.call = started.calls.map Replied.call ++
          [.stopConnection held.connection, .closeProducer held.producer,
            .closeSession held.session, .closeConnection held.connection]) := by
  obtain ⟨x, hr, hmanager, hobtained⟩ :=
    Manager.ends_start oracle config files defaults
  generalize ({} : Attended).run oracle (Manager.start config files defaults) = result at *
  obtain ⟨r, started⟩ := result
  dsimp only at hr hmanager hobtained ⊢
  subst hr
  refine ⟨orderly_of_obtained hobtained, ?_⟩
  cases x with
  | error e =>
      -- the manager has failed and holds nothing, so closing it calls nothing
      have hidle : started.manager.held = none := by rw [hmanager]; rfl
      rw [calls_closeTimes_idle hidle]
      refine ⟨?_, fun _ => ⟨rfl, ?_⟩, by simp [Except.map]⟩
      · rcases hobtained.cases with ⟨d, hattempt⟩ | ⟨hcalls, -⟩
        · exact tidy_of_failed hattempt
        · exact hcalls ▸ tidy_nil
      · intro e he c
        rcases hobtained.cases with ⟨d, hattempt⟩ | ⟨hcalls, -⟩
        · exact hattempt.not_stopped he c
        · simp [hcalls] at he
  | ok held =>
      obtain ⟨d, hattempt⟩ : ∃ d, Attempt d [] Manager.acquisition started.calls
          (.ok (Manager.handlesOf held)) := by
        rcases hobtained.cases with h | ⟨-, e, he⟩
        · exact h
        · cases he
      obtain ⟨hheld, calls, hcalls, hreleased⟩ : _ ∧ _ :=
        Manager.ends_close_ready oracle hmanager
      have hclosed : (started.closeTimes oracle (n + 1)).calls = started.calls ++ calls :=
        (calls_closeTimes_idle hheld n).trans hcalls
      rw [hclosed]
      refine ⟨tidy_of_released hattempt hreleased, fun h => absurd rfl h, fun _ =>
        ⟨held, by rw [hmanager]; rfl, ?_⟩⟩
      obtain ⟨stopped, first, second, third, rfl⟩ := hreleased
      rw [List.map_append]
      rfl

end Attended

end Sluice
