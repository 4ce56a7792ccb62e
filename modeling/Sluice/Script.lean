/-! # Scripts

A script is what somebody does who can only act by asking: it is done with a result, or asks
something and goes on in a way that depends on the answer. Who answers, and what happens in between,
is not its business, so one script can be carried out by a broker in memory, held up and recorded
call by call, or looked at under every possible sequence of answers.
-/

namespace Sluice

/-- What somebody does who asks requests of a kind and ends with an `α`. -/
inductive Script (Request : Type) (Answer : Request → Type) (α : Type) : Type where
  | done (x : α)
  | ask (request : Request) (next : Answer request → Script Request Answer α)

namespace Script

variable {Request : Type} {Answer : Request → Type} {α β : Type}

/-- Go on with `f` when a script is done. -/
def bind (s : Script Request Answer α) (f : α → Script Request Answer β) :
    Script Request Answer β :=
  match s with
  | .done x => f x
  | .ask request next => .ask request fun answer => (next answer).bind f

instance : Monad (Script Request Answer) where
  pure := .done
  bind := bind

def request (r : Request) : Script Request Answer (Answer r) := .ask r .done

@[simp] theorem done_bind (x : α) (f : α → Script Request Answer β) :
    (Script.done x : Script Request Answer α) >>= f = f x := rfl

@[simp] theorem ask_bind (r : Request) (next : Answer r → Script Request Answer α)
    (f : α → Script Request Answer β) :
    Script.ask r next >>= f = Script.ask r (fun answer => next answer >>= f) := rfl

@[simp] theorem bind_done (s : Script Request Answer α) : s >>= Script.done = s := by
  induction s with
  | done x => rfl
  | ask r next ih => exact congrArg (Script.ask r) (funext ih)

theorem bind_assoc {γ : Type} (s : Script Request Answer α) (f : α → Script Request Answer β)
    (g : β → Script Request Answer γ) : (s >>= f) >>= g = s >>= fun x => f x >>= g := by
  induction s with
  | done x => rfl
  | ask r next ih => exact congrArg (Script.ask r) (funext ih)

instance : LawfulMonad (Script Request Answer) := LawfulMonad.mk'
  _ bind_done (fun _ _ => rfl) bind_assoc

/-- Carry out a script with other requests: each request becomes a script of its own. -/
def expand {Request' : Type} {Answer' : Request' → Type}
    (carryOut : (r : Request) → Script Request' Answer' (Answer r)) :
    Script Request Answer α → Script Request' Answer' α
  | .done x => .done x
  | .ask r next => (carryOut r).bind fun answer => (next answer).expand carryOut

/-- The result of a script whose requests are answered by an oracle that remembers nothing. -/
def answeredBy (oracle : (r : Request) → Answer r) : Script Request Answer α → α
  | .done x => x
  | .ask r next => (next (oracle r)).answeredBy oracle

/-- The result of a script whose requests are answered by an oracle that remembers nothing and may
act or fail with every answer. -/
def answeredIn {m : Type → Type} [Monad m] (oracle : (r : Request) → m (Answer r)) :
    Script Request Answer α → m α
  | .done x => pure x
  | .ask r next => do (next (← oracle r)).answeredIn oracle

theorem answeredIn_pure (oracle : (r : Request) → Answer r) (s : Script Request Answer α) :
    s.answeredIn (m := Id) (fun r => pure (oracle r)) = pure (s.answeredBy oracle) := by
  induction s with
  | done x => rfl
  | ask r next ih => exact ih (oracle r)

theorem answeredIn_bind {m : Type → Type} [Monad m] [LawfulMonad m]
    (oracle : (r : Request) → m (Answer r)) (s : Script Request Answer α)
    (f : α → Script Request Answer β) :
    (s >>= f).answeredIn oracle = s.answeredIn oracle >>= fun x => (f x).answeredIn oracle := by
  induction s with
  | done x => rw [done_bind, answeredIn, pure_bind]
  | ask r next ih =>
      rw [ask_bind, answeredIn, answeredIn, LawfulMonad.bind_assoc]
      exact congrArg (oracle r >>= ·) (funext ih)

end Script

end Sluice
