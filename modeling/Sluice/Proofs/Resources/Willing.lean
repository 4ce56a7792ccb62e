import Sluice.Proofs.Task.Undisturbed
import Sluice.Router.Basic

/-! # Acquiring from a willing broker

A broker is willing if it asks for no credentials and no fault is armed. It refuses nothing to
whoever acquires resources alone, so whether they become ready depends only on the configured names
and on the properties of the directory.
-/

namespace Sluice

namespace Broker

/-- A broker that has no reason to refuse what is asked of it through open handles. -/
structure Willing (b : Broker) : Prop where
  armed : b.armed = []
  required : b.required = none

namespace Willing

variable {b : Broker} (hwilling : b.Willing)

include hwilling

theorem attempt {α : Type} (point : FaultPoint) (act : Broker → Except BrokerError α × Broker) :
    b.attempt point act = act b := by
  rw [Broker.attempt, hwilling.armed]
  exact if_neg (List.not_mem_nil)

theorem createConnection (credentials : Option Credentials) :
    ∃ c b', b.createConnection credentials = (.ok c, b') ∧ b'.Willing ∧ b'.connectionOpen c := by
  have hcreated : b.createConnection credentials = (.ok ⟨b.connections.length⟩,
      countOpened { b with connections := b.connections ++ [true] } .connection) := by
    rw [Broker.createConnection, hwilling.attempt, hwilling.required]
    rfl
  refine ⟨_, _, hcreated, ⟨hwilling.armed, hwilling.required⟩, ?_⟩
  simp [connectionOpen, countOpened]

theorem createSession {c : Handle .connection} (hopen : b.connectionOpen c) (transacted : Bool) :
    ∃ s b', b.createSession c transacted = (.ok s, b') ∧ b'.Willing ∧ b'.connectionOpen c ∧
      b'.sessionOpen s := by
  have hcreated : b.createSession c transacted = (.ok ⟨b.sessions.length⟩, countOpened
      { b with sessions := b.sessions ++ [{ pending := if transacted then some [] else none }] }
      .session) := by
    rw [Broker.createSession, if_pos hopen, hwilling.attempt]
  refine ⟨_, _, hcreated, ⟨hwilling.armed, hwilling.required⟩, hopen, ?_⟩
  simp [sessionOpen, countOpened]

theorem createProducer {s : Handle .session} (hopen : b.sessionOpen s) (d : Destination) :
    ∃ p b', b.createProducer s d = (.ok p, b') ∧ b'.Willing ∧ b'.connections = b.connections ∧
      (b'.openProducer? p).isSome := by
  have hcreated : b.createProducer s d = (.ok ⟨b.producers.length⟩, countOpened
      { b with producers := b.producers ++ [{ session := s, destination := d.name }] }
      .producer) := by
    rw [Broker.createProducer, if_pos hopen, hwilling.attempt]
  refine ⟨_, _, hcreated, ⟨hwilling.armed, hwilling.required⟩, rfl, ?_⟩
  simp [openProducer?, countOpened]

theorem applySettings {p : Handle .producer} (hopen : (b.openProducer? p).isSome)
    (settings : DeliverySettings) :
    ∃ b', b.applySettings p settings = (.ok (), b') ∧ b'.Willing ∧
      b'.connections = b.connections := by
  obtain ⟨r, hr⟩ := Option.isSome_iff_exists.mp hopen
  have happlied : b.applySettings p settings = (.ok (),
      { b with producers := b.producers.modify p.index fun r => { r with settings } }) := by
    rw [Broker.applySettings, hr]
    exact hwilling.attempt _ _
  exact ⟨_, happlied, ⟨hwilling.armed, hwilling.required⟩, rfl⟩

theorem startConnection {c : Handle .connection} (hopen : b.connectionOpen c) :
    b.startConnection c = (.ok (), b) := by
  rw [Broker.startConnection, gateConnection, if_pos hopen, hwilling.attempt]

end Willing

end Broker

namespace Manager

open Schedule

variable {α : Type} {task place : Nat} {s : Schedule α} {name : String} {properties : Properties}
  {d : Destination} {settings : ConnectionSettings}

/-! ### Names -/

theorem attains_resolveDestination {Q : Except ConfigurationError Destination → Schedule α → Prop}
    (hbound : s.world.bindings.resolve name = .ok (.destination d)) (hQ : Q (.ok d) s) :
    Attains task place Q (resolveDestination name properties) s := by
  refine Attains.bind (attains_lookup ?_)
  rw [hbound]
  exact hQ

theorem attains_resolveFactory {Q : Except ConfigurationError Unit → Schedule α → Prop}
    (hbound : s.world.bindings.resolve name = .ok .connectionFactory) (hQ : Q (.ok ()) s) :
    Attains task place Q (resolveFactory name properties) s := by
  refine Attains.bind (attains_lookup ?_)
  rw [hbound]
  exact hQ

theorem attains_resolveFactory_hidden {Q : Except ConfigurationError Unit → Schedule α → Prop}
    (hbound : s.world.bindings.resolve name = .ok (.destination d))
    (hQ : Q (.error (.wrongEntryKind name .connectionFactory .destination)) s) :
    Attains task place Q (resolveFactory name properties) s := by
  refine Attains.bind (attains_lookup ?_)
  rw [hbound]
  exact hQ

/-! ### Handles -/

theorem attains_openProducer {session : Handle .session}
    {Q : Except ConfigurationError (Handle .producer) → Schedule α → Prop}
    (hwilling : s.world.broker.Willing) (hopen : s.world.broker.sessionOpen session)
    (hQ : ∀ producer b, b.Willing → b.connections = s.world.broker.connections →
      Q (.ok producer) (s.withBroker b)) :
    Attains task place Q (openProducer settings session d) s := by
  obtain ⟨producer, b, hcreated, hwilling₁, hconnections₁, hproducer⟩ :=
    hwilling.createProducer hopen d
  obtain ⟨b', happlied, hwilling₂, hconnections₂⟩ :=
    hwilling₁.applySettings hproducer settings.delivery
  refine Attains.bind (attains_call hcreated ?_)
  refine Attains.bind (attains_call happlied ?_)
  exact hQ producer b' hwilling₂ (hconnections₂.trans hconnections₁)

theorem attains_openSession {connection : Handle .connection}
    {Q : Except ConfigurationError (Handle .session × Handle .producer) → Schedule α → Prop}
    (hwilling : s.world.broker.Willing) (hopen : s.world.broker.connectionOpen connection)
    (hQ : ∀ session producer b, Q (.ok (session, producer)) (s.withBroker b)) :
    Attains task place Q (openSession settings connection d) s := by
  obtain ⟨session, b, hcreated, hwilling₁, hopen₁, hsession⟩ :=
    hwilling.createSession hopen settings.transacted
  refine Attains.bind (attains_call hcreated ?_)
  refine Attains.bind (attains_openProducer hwilling₁ hsession ?_)
  intro producer b' hwilling₂ hconnections
  have hopen₂ : b'.connectionOpen connection := by
    rw [Broker.connectionOpen, hconnections]
    exact hopen₁
  refine Attains.bind (attains_call (hwilling₂.startConnection hopen₂) ?_)
  exact hQ session producer b'

/-- A willing broker opens what a router publishes with. -/
theorem attains_openResources
    {Q : Except ConfigurationError Resources → Schedule α → Prop}
    (hwilling : s.world.broker.Willing)
    (hQ : ∀ held b, held.destination = d → held.transacted = settings.transacted →
      Q (.ok held) (s.withBroker b)) :
    Attains task place Q (openResources settings d) s := by
  obtain ⟨connection, b, hcreated, hwilling₁, hopen⟩ :=
    hwilling.createConnection settings.credentials
  refine Attains.bind (attains_call hcreated ?_)
  refine Attains.bind (attains_openSession hwilling₁ hopen ?_)
  intro session producer b'
  exact hQ _ b' rfl rfl

/-! ### Acquisition -/

section Acquire

variable {config : Config} {files : Files} {defaults : Properties}
  {Q : Except ConfigurationError Resources → Schedule α → Prop}

theorem attains_acquire_unreadable {cause : NamingError}
    (hname : config.destinationName = some name)
    (hproperties : config.directory.toProperties files defaults = .error cause)
    (hQ : Q (.error (.directory cause)) s) :
    Attains task place Q (acquire config files defaults) s := by
  rw [acquire, hname]
  simp only [hproperties]
  exact hQ

variable (hname : config.destinationName = some name)
  (hproperties : config.directory.toProperties files defaults = .ok properties)
  (hdestination : s.world.bindings.resolve name = .ok (.destination d))

include hname hproperties hdestination

theorem attains_acquire_hidden {d' : Destination}
    (hfactory : s.world.bindings.resolve config.connection.factoryName = .ok (.destination d'))
    (hQ : Q (.error
      (.wrongEntryKind config.connection.factoryName .connectionFactory .destination)) s) :
    Attains task place Q (acquire config files defaults) s := by
  rw [acquire, hname]
  simp only [hproperties]
  refine Attains.bind (attains_resolveDestination hdestination ?_)
  exact Attains.bind (attains_resolveFactory_hidden hfactory hQ)

theorem attains_acquire (hwilling : s.world.broker.Willing)
    (hfactory : s.world.bindings.resolve config.connection.factoryName = .ok .connectionFactory)
    (hQ : ∀ held b, held.destination = d → held.transacted = config.connection.transacted →
      Q (.ok held) (s.withBroker b)) :
    Attains task place Q (acquire config files defaults) s := by
  rw [acquire, hname]
  simp only [hproperties]
  refine Attains.bind (attains_resolveDestination hdestination ?_)
  refine Attains.bind (attains_resolveFactory hfactory ?_)
  exact attains_openResources hwilling hQ

end Acquire

/-- The manager behind an acquisition, by its outcome. -/
def settled : Except ConfigurationError Resources → Manager
  | .ok held => { state := .ready, held := some held }
  | .error _ => { state := .failed }

theorem attains_start {config : Config} {files : Files} {defaults : Properties}
    {Q : Except ConfigurationError Unit → Schedule α → Prop}
    (hnew : (s.world.station place).manager = {})
    (h : Attains task place
      (fun outcome s' => Q (outcome.map fun _ => ()) (s'.withManager place (settled outcome)))
      (acquire config files defaults) (s.withManager place { state := .initializing })) :
    Attains task place Q (start config files defaults) s := by
  refine Attains.bind (attains_manager ?_)
  rw [hnew]
  refine Attains.bind (attains_keep ?_)
  refine Attains.bind (h.mono fun outcome s' hQ => ?_)
  cases outcome with
  | ok held => exact Attains.bind (attains_keep hQ)
  | error e => exact Attains.bind (attains_keep hQ)

end Manager

open Schedule in
/-- A router whose station is new is started in one turn, if its resources are acquired in one: the
manager settles as the acquisition ends, and so does the answer. -/
theorem Router.attains_start {α : Type} {task place : Nat} {s : Schedule α} {r : Router}
    {files : Files} {defaults : Properties} {P : Except ConfigurationError Resources → Prop}
    (hplace : place < s.world.stations.length) (hnew : s.world.station place = {})
    (h : ∀ s' : Schedule α, s'.world.broker = s.world.broker →
      s'.world.bindings = s.world.bindings → Attains task place
        (fun outcome s'' => P outcome ∧ s''.world.stations.length = s'.world.stations.length)
        (Manager.acquire r.config files defaults) s') :
    Attains task place
      (fun x s' => ∃ outcome, P outcome ∧
        x = (outcome.map fun _ => ()).mapError RouterError.configuration ∧
          (s'.world.station place).manager = Manager.settled outcome)
      (r.start files defaults) s := by
  refine attains_locked hplace (by rw [hnew]) (Attains.bind (Manager.attains_start ?_ ?_))
  · change ((s.world.modifyStation place _).station place).manager = {}
    rw [World.station_modifyStation hplace, hnew]
  · let begun := (s.withLock task place).withManager place { state := .initializing }
    refine (h begun rfl rfl).mono ?_
    rintro outcome s' ⟨houtcome, hlength⟩
    have hstations : s'.world.stations.length = s.world.stations.length := by
      rw [hlength]
      exact (World.length_modifyStation ..).trans (World.length_modifyStation ..)
    have hmanager : ((((s'.withManager place (Manager.settled outcome)).unlock place).world).station
        place).manager = Manager.settled outcome := by
      rw [(unlock_eq _ place).1, World.modifyLock, World.station_modifyStation]
      · exact congrArg Station.manager (World.station_modifyStation (hstations ▸ hplace) _)
      · exact (World.length_modifyStation ..).symm ▸ hstations ▸ hplace
    cases outcome with
    | ok held => exact ⟨_, houtcome, rfl, hmanager⟩
    | error e => exact ⟨_, houtcome, rfl, hmanager⟩

end Sluice
