import Sluice.Task.Request

/-! # Acquiring and releasing broker resources

`Manager.acquire` resolves the destination and the connection factory, opens a connection, a session
and a producer, and starts the connection. The first step that fails decides the error; what was
opened before it is closed again, the newest first. `Manager.close` releases what is held in the
same order and goes on whatever fails.
-/

namespace Sluice

namespace Manager

def resolveDestination (name : String) (properties : Properties) :
    Work (Except ConfigurationError Destination) := do
  match ← Work.lookup name properties with
  | .error cause => return .error (.naming name cause)
  | .ok (.destination d) => return .ok d
  | .ok .connectionFactory =>
      return .error (.wrongEntryKind name .destination .connectionFactory)

def resolveFactory (name : String) (properties : Properties) :
    Work (Except ConfigurationError Unit) := do
  match ← Work.lookup name properties with
  | .error cause => return .error (.naming name cause)
  | .ok .connectionFactory => return .ok ()
  | .ok (.destination _) => return .error (.wrongEntryKind name .connectionFactory .destination)

/-- Make a call and forget whether it fails. -/
def tryCall (c : Call) : Work Unit := do
  let _ ← Work.call c
  return ()

/-- Open a producer and apply the delivery settings. -/
def openProducer (settings : ConnectionSettings) (session : Handle .session) (d : Destination) :
    Work (Except ConfigurationError (Handle .producer)) := do
  match ← Work.call (.createProducer session d) with
  | .error cause => return .error (.resource .createProducer d.name cause)
  | .ok producer =>
      match ← Work.call (.applySettings producer settings.delivery) with
      | .ok _ => return .ok producer
      | .error cause =>
          tryCall (.closeProducer producer)
          return .error (.resource .applySettings d.name cause)

/-- Open a session and a producer, then start the connection. -/
def openSession (settings : ConnectionSettings) (connection : Handle .connection)
    (d : Destination) :
    Work (Except ConfigurationError (Handle .session × Handle .producer)) := do
  match ← Work.call (.createSession connection settings.transacted settings.acknowledgeMode) with
  | .error cause => return .error (.resource .createSession d.name cause)
  | .ok session =>
      match ← openProducer settings session d with
      | .error e =>
          tryCall (.closeSession session)
          return .error e
      | .ok producer =>
          match ← Work.call (.startConnection connection) with
          | .ok _ => return .ok (session, producer)
          | .error cause =>
              tryCall (.closeProducer producer)
              tryCall (.closeSession session)
              return .error (.resource .startConnection d.name cause)

def openResources (settings : ConnectionSettings) (d : Destination) :
    Work (Except ConfigurationError Resources) := do
  match ← Work.call (.createConnection settings.credentials) with
  | .error cause => return .error (.resource .openConnection d.name cause)
  | .ok connection =>
      match ← openSession settings connection d with
      | .ok (session, producer) =>
          return .ok ⟨connection, session, producer, d, settings.transacted⟩
      | .error e =>
          tryCall (.closeConnection connection)
          return .error e

/-- Resolve the configured names, then open everything. -/
def acquire (config : Config) (files : Files) (defaults : Properties) :
    Work (Except ConfigurationError Resources) := do
  match config.destinationName with
  | none => return .error (.missingSetting .destinationName)
  | some name =>
      match config.directory.toProperties files defaults with
      | .error cause => return .error (.directory cause)
      | .ok properties =>
          match ← resolveDestination name properties with
          | .error e => return .error e
          | .ok d =>
              match ← resolveFactory config.connection.factoryName properties with
              | .error e => return .error e
              | .ok _ => openResources config.connection d

/-- Acquire the resources of a station, once in its life. -/
def start (config : Config) (files : Files) (defaults : Properties) :
    Work (Except ConfigurationError Unit) := do
  let m ← Work.manager
  if m.state ≠ .uninitialized then
    return .error (.lifecycle m.state)
  Work.keep { m with state := .initializing }
  match ← acquire config files defaults with
  | .ok resources =>
      Work.keep { state := .ready, held := some resources }
      return .ok ()
  | .error e =>
      Work.keep { m with state := .failed }
      return .error e

/-- Stop the connection, then close producer, session and connection. -/
def release (r : Resources) : Work Unit := do
  tryCall (.stopConnection r.connection)
  tryCall (.closeProducer r.producer)
  tryCall (.closeSession r.session)
  tryCall (.closeConnection r.connection)

def close : Work Unit := do
  let m ← Work.manager
  if m.state = .closed ∨ m.state = .closing then
    return ()
  Work.keep { state := .closing }
  match m.held with
  | none => pure ()
  | some r => release r
  Work.keep { state := .closed }

end Manager

end Sluice
