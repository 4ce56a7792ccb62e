import Sluice.Task.Request

/-! # Recorded work

In a rehearsal everything that a router does through its directory is recorded, a line for each call
once it has returned, and calls can be held up or made to fail. `Work.recorded` is a script carried
out that way: each of its requests is asked once, and everything else it does is for the record.
-/

namespace Sluice

namespace Call

/-- The name under which a call can be planned. -/
def callName : Call → Option CallName
  | .startConnection _ => some .startConnection
  | .stopConnection _ => some .stopConnection
  | .closeConnection _ => some .closeConnection
  | .commit _ => some .commit
  | .rollback _ => some .rollback
  | .closeSession _ => some .closeSession
  | .send _ _ => some .send
  | .closeProducer _ => some .closeProducer
  | .closeBrowser _ => some .closeBrowser
  | _ => none

def describe : Call → String
  | .createConnection none => "create_connection none"
  | .createConnection (some c) => "create_connection " ++ c.principal ++ "/" ++ c.credential
  | .createSession _ transacted mode =>
      "create_session transacted=" ++ Value.booleanText transacted ++ " ack=" ++ mode.name
  | .createProducer _ d => "create_producer " ++ d.name
  | .applySettings _ settings =>
      "apply_settings priority=" ++ toString settings.priority.toNat ++ " ttl=" ++
        toString settings.timeToLive ++ " mode=" ++ settings.deliveryMode.name
  | .createBrowser _ d => "create_browser " ++ d.name
  | .browse _ => "browser.depth"
  | .startConnection _ => CallName.startConnection.name
  | .stopConnection _ => CallName.stopConnection.name
  | .closeConnection _ => CallName.closeConnection.name
  | .commit _ => CallName.commit.name
  | .rollback _ => CallName.rollback.name
  | .closeSession _ => CallName.closeSession.name
  | .send _ _ => CallName.send.name
  | .closeProducer _ => CallName.closeProducer.name
  | .closeBrowser _ => CallName.closeBrowser.name

/-- The result of a call as a record shows it, if it does. -/
def describeResult : (c : Call) → c.Result → String
  | .createBrowser _ _, none => " = none"
  | .browse _, depth => " = " ++ Nat.repr depth
  | _, _ => ""

/-- The line that records a call and its reply. -/
def recordLine (c : Call) : c.Reply → String
  | .ok x => c.describe ++ c.describeResult x
  | .error e => c.describe ++ " -> " ++ e.message

def opensBrowser : Call → Bool
  | .createBrowser _ _ => true
  | _ => false

end Call

def lookupLine (name : String) (properties : Properties) : String :=
  "lookup " ++ name ++ " [" ++
    ";".intercalate (properties.entries.map fun entry => entry.1 ++ "=" ++ entry.2) ++ "]"

namespace Work

/-- Hold up a call for as long as this is planned. -/
def hold (name : CallName) : Work Unit := do
  match ← (ask (.delayOf name) : Work (Option Nat)) with
  | none => return ()
  | some 0 => pause
  | some millis => rest millis

/-- Make a call that can be planned: hold it up, make it, and report it as failed if that is planned
and it did not fail by itself. -/
def planned (name : CallName) (c : Call) : Work c.Reply := do
  hold name
  let reply ← call c
  let fails : Bool ← ask (.takeFailure name)
  match reply with
  | .error e => return .error e
  | .ok x => return if fails then .error (.transport (.planned name.name)) else .ok x

def recordedCall (c : Call) : Work c.Reply := do
  let reply ←
    match c.callName with
    | none => call c
    | some name => planned name c
  (ask (.record (c.recordLine reply)) : Work Unit)
  if c.opensBrowser then
    (ask .shutDownAsPlanned : Work Unit)
  return reply

def recordedLookup (name : String) (properties : Properties) :
    Work (Except NamingError Entry) := do
  (ask (.record (lookupLine name properties)) : Work Unit)
  hold .lookup
  lookup name properties

/-- Ask a request and record it, if it is a call or a look-up. -/
def recordedAsk : (r : Request) → Work r.Answer
  | .call c => recordedCall c
  | .lookup name properties => recordedLookup name properties
  | r => ask r

/-- The script with all its calls and look-ups recorded. -/
def recorded {α : Type} (work : Work α) : Work α := work.expand recordedAsk

end Work

end Sluice
