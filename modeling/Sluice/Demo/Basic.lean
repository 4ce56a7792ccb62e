import Sluice.Config.Params
import Sluice.Demo.Outline
import Sluice.Logging
import Sluice.Mqtt.Directory
import Sluice.Task.Schedule

/-! # The start of the demo

The demo publishes orders through a router that is configured by parameters of its own under those
of the environment. The destination is a queue in memory, unless the environment names a foreign
broker. `Demo.start` is what happens before the first order: parameters, configuration, correlation
pattern, directory properties and names are looked at in this order, and the first fault ends the
demo. Where it cannot go on at all, it breaks off without an error of its own.
-/

namespace Sluice.Demo

/-- The file from which settings are loaded into the environment. -/
def environmentFile : String := ".env"

/-- What the names of parameters in the environment begin with. -/
def parameterPrefix : String := "BEAN_ROUTER_"

def brokerVariable : String := "MQTT_BROKER"

def logLevel : String := "info"

/-- The parameters that hold unless the environment says otherwise. -/
def builtIn : Keyed String :=
  Keyed.ofList [("beanId", "order"), ("destinationName", "orders"),
    ("correlationIdPattern", "order-$\x7border.id\x7d"), ("messageType", "map"),
    ("highWaterMark", "5"), ("highWaterMarkTimeout", "10000"),
    ("highWaterMarkPollFrequency", "100")]

/-- The name of the parameter that a variable sets. -/
def parameterName? (variableName : String) : Option String :=
  if parameterPrefix.toList.isPrefixOf variableName.toList then
    some (String.ofList (variableName.toList.drop parameterPrefix.length))
  else none

/-- The parameters: the built-in ones with those of the environment laid over them. -/
def parameters (env : Environment) : Keyed String :=
  builtIn.insertAll (env.entries.filterMap fun (variableName, value) =>
    (parameterName? variableName).map fun name => (name, value))

/-- The environment after the environment file is loaded, if there is one and it is text. -/
def loadedEnvironment (env : Environment) (files : Files) : Option Environment :=
  match (files environmentFile).toOption.bind Bytes.toString? with
  | none => some env
  | some text => env.load text

/-- The name of the queue that the demo publishes to. -/
def queueName (config : Config) : String := config.destinationName.getD "orders"

/-- The world in which the demo publishes in memory: one queue and a connection factory. A queue of
the factory's name hides the factory. -/
def world (config : Config) : World where
  broker := Broker.declare {} (.queue (queueName config))
  bindings :=
    (Keyed.empty.insert config.connection.factoryName .connectionFactory).insert
      (queueName config) (.destination (.queue (queueName config)))
  stations := [{}]

/-- How many turns the start may take; it never comes near it. -/
def patience : Nat := Nat.pow 2 40

/-- Start a router in that world; none if it is not over after so many turns. -/
def startInMemory (r : Router) (files : Files) : Option (Except RouterError Unit) :=
  let s : Schedule (Except RouterError Unit) := { world := world r.config }
  (s.perform patience 0 (r.start files Keyed.empty) none).1

/-- What a client hears from an address at which nobody listens. -/
def nobodyListens : BrokerError := .unreachable "I/O: Connection refused (os error 111)"

/-- The answers that a router gets while no foreign broker is reached. -/
def offlineAnswer (d : Mqtt.Directory) : (r : Request) → Option r.Answer
  | .lookup name properties => d.lookup name properties
  | .call _ => some (.error nobodyListens)
  | .clock => some (0 : Nat)
  | .isShutDown => some false
  | .enlist => some (0 : Nat)
  | .rest _ _ => some false
  | .manager => some ({} : Manager)
  | .delayOf _ => some (none : Option Nat)
  | .takeFailure _ => some false
  | .shutDown | .interrupt | .pause | .lock | .unlock | .keep _ | .record _
  | .shutDownAsPlanned => some ()

/-- Start a router over a bridge to a foreign broker that is not reached; none if it breaks off. -/
def startOffline (r : Router) (files : Files) (location : String) :
    Option (Except RouterError Unit) :=
  let d : Mqtt.Directory := ⟨r.config.connection.factoryName, some location⟩
  (r.start files d.defaults).answeredIn (offlineAnswer d)

/-- How the start of the demo ends. -/
inductive Ending where
  /-- Orders are published. -/
  | publishing (r : Router)
  /-- The configuration is faulty. -/
  | misconfigured (e : ConfigurationError)
  /-- The router could not be started. -/
  | notStarted (e : RouterError)
  /-- The program broke off in the midst of its work. -/
  | brokenOff

def Ending.errorLine? : Ending → Option String
  | .publishing _ => none
  | .misconfigured e => some ("Error: " ++ e.outline.render)
  | .notStarted (.configuration e) =>
      some ("Error: " ++ (Text.Outline.wrapped "Configuration" e.outline).render)
  | .notStarted e => some ("Error: " ++ e.kind)
  | .brokenOff => none

def Ending.exitCode : Ending → Nat
  | .publishing _ => 0
  | .misconfigured _ => 1
  | .notStarted _ => 1
  | .brokenOff => 101

/-- Start the demo in an environment that is loaded. -/
def start (env : Environment) (files : Files) : Ending :=
  match Config.ofParams (parameters env).entries with
  | .error e => .misconfigured e
  | .ok config =>
      match Router.new config with
      | .error e => .misconfigured e
      | .ok r =>
          let started :=
            match env.get? brokerVariable with
            | some location => startOffline r files location
            | none => startInMemory r files
          match started with
          | none => .brokenOff
          | some (.error e) => .notStarted e
          | some (.ok _) => .publishing r

/-- A line of a log. -/
structure LogLine where
  level : LogLevel
  text : String
deriving Repr

/-- The lines of the parameters that nobody knows. -/
def unknownLines (env : Environment) : List LogLine :=
  (Config.ignoredParams (parameters env).entries).map fun name =>
    ⟨.warn, "Ignoring unknown parameter " ++ name⟩

/-- The line of the foreign broker in use; a faulty configuration comes before it. -/
def brokerLines (env : Environment) : List LogLine :=
  match Config.ofParams (parameters env).entries, env.get? brokerVariable with
  | .ok _, some location => [⟨.info, "Publishing to " ++ location⟩]
  | _, _ => []

/-- The lines of the start itself. A faulty configuration is not logged. -/
def startLines : Ending → List LogLine
  | .publishing r => [⟨.info, "Router of " ++ r.destinationName ++ " is ready"⟩]
  | .misconfigured _ => []
  | .notStarted e => [⟨.error, "Failed to start the router: " ++ e.message⟩]
  | .brokenOff => []

def logger (env : Environment) : Logger := Logger.setup {} env (some logLevel)

/-- The lines that the logger lets through. -/
def logged (env : Environment) (lines : List LogLine) : List LogLine :=
  lines.filter fun line => line.level.rank ≤ (logger env).enabled.rank

/-- The lines of the demo up to an ending. -/
def linesBeforeEnd (env : Environment) (ending : Ending) : List LogLine :=
  unknownLines env ++ brokerLines env ++ startLines ending

end Sluice.Demo
