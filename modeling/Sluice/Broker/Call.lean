import Sluice.Broker.Memory

/-! # Calls of a client

Everything that a client can ask of a broker through its handles, each with the result that it has
when it succeeds. What a client does is a sequence of calls, whatever broker answers them;
`Broker.perform` is how the broker in memory answers.
-/

namespace Sluice

/-- A call of a client to a broker. -/
inductive Call where
  | createConnection (credentials : Option Credentials)
  | startConnection (c : Handle .connection)
  | stopConnection (c : Handle .connection)
  | closeConnection (c : Handle .connection)
  | createSession (c : Handle .connection) (transacted : Bool) (mode : AcknowledgeMode)
  | commit (s : Handle .session)
  | rollback (s : Handle .session)
  | closeSession (s : Handle .session)
  | createProducer (s : Handle .session) (d : Destination)
  | applySettings (p : Handle .producer) (settings : DeliverySettings)
  | send (p : Handle .producer) (m : Message)
  | closeProducer (p : Handle .producer)
  | createBrowser (s : Handle .session) (d : Destination)
  | browse (w : Handle .browser)
  | closeBrowser (w : Handle .browser)

namespace Call

/-- What a call returns when it succeeds. A destination that cannot be inspected has no browser. -/
def Result : Call → Type
  | .createConnection _ => Handle .connection
  | .createSession _ _ _ => Handle .session
  | .createProducer _ _ => Handle .producer
  | .createBrowser _ _ => Option (Handle .browser)
  | .browse _ => Nat
  | _ => Unit

abbrev Reply (c : Call) : Type := Except BrokerError c.Result

end Call

def Broker.perform (b : Broker) (now : Nat) : (c : Call) → c.Reply × Broker
  | .createConnection credentials => b.createConnection credentials
  | .startConnection c => b.startConnection c
  | .stopConnection c => b.stopConnection c
  | .closeConnection c => b.closeConnection c
  | .createSession c transacted _ => b.createSession c transacted
  | .commit s => b.commit s
  | .rollback s => b.rollback s
  | .closeSession s => b.closeSession s
  | .createProducer s d => b.createProducer s d
  | .applySettings p settings => b.applySettings p settings
  | .send p m => b.send now p m
  | .closeProducer p => b.closeProducer p
  | .createBrowser s d => b.createBrowser s d
  | .browse w => b.browse now w
  | .closeBrowser w => b.closeBrowser w

end Sluice
