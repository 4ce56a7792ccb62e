import Sluice.Correlation.Template
import Sluice.Directory.Naming
import Sluice.Encoding
import Sluice.Json.Fault
import Sluice.Text.Numeral

/-! # Configurations

The settings of a router: which value it publishes, where to, how the broker is reached, how
messages are made and how long a full destination is waited for. `Config.validate` looks at the
settings in a fixed order and reports the first that cannot be used. All times are milliseconds.
-/

namespace Sluice

/-- When a pipeline element publishes. -/
inductive ExecutionPhase where
  /-- On entering the element. -/
  | before
  /-- On leaving the element. -/
  | after
deriving DecidableEq, Repr, Inhabited

/-- The high-water mark that turns admission control off. -/
def admissionDisabled : Int32 := -1

/-- How a full destination is waited for. -/
structure AdmissionConfig where
  /-- The depth at which publishing waits. -/
  highWaterMark : Int32 := 200
  /-- How long the destination is given to drain. Times have no bound here. A clock whose readings
  are bounded, say by `2 ^ 63` seconds, would fail where the end of the wait is beyond them; that is
  left out. -/
  timeout : Nat := 60000
  /-- The pause between two looks at the depth. -/
  pollInterval : Nat := 1000
deriving DecidableEq, Repr

namespace AdmissionConfig

/-- The settings with admission control turned off. -/
def disabled : AdmissionConfig := { highWaterMark := admissionDisabled }

def isEnabled (c : AdmissionConfig) : Bool := c.highWaterMark != admissionDisabled

/-- The least depth at which publishing waits. A mark of zero lets through what finds the
destination empty. -/
def threshold (c : AdmissionConfig) : Nat := (max c.highWaterMark.toInt 1).toNat

end AdmissionConfig

/-- How connection, session and producer are opened. -/
structure ConnectionSettings where
  /-- The directory name of the connection factory. -/
  factoryName : String := "ConnectionFactory"
  credentials : Option Credentials := none
  /-- Whether sends wait for a commit. -/
  transacted : Bool := false
  acknowledgeMode : AcknowledgeMode := .auto
  /-- What the producer stamps on messages. -/
  delivery : DeliverySettings := {}
deriving DecidableEq

/-- The settings of a router. -/
structure Config where
  /-- The key of the published value. -/
  valueKey : Option String := none
  /-- The directory name of the destination. -/
  destinationName : Option String := none
  connection : ConnectionSettings := {}
  directory : Directory.Settings := {}
  messageType : MessageType := .text
  /-- The template of correlation ids. -/
  correlationPattern : Option String := none
  admission : AdmissionConfig := {}
  executionPhase : ExecutionPhase := .after
deriving DecidableEq

/-- A setting that has to be there. -/
inductive MandatorySetting where
  | valueKey
  | destinationName
  | factoryName
deriving DecidableEq, Repr

def MandatorySetting.name : MandatorySetting → String
  | .valueKey => "value_key"
  | .destinationName => "destination_name"
  | .factoryName => "connection.factory_name"

/-- Why a value cannot be used for a setting. -/
inductive ValueFault where
  /-- It is no whole number of the setting's range. -/
  | numeral (e : Text.NumeralError)
  /-- It is no truth value. -/
  | boolean
  /-- It is an unknown name. -/
  | name (e : NameError)
  /-- It is no priority. -/
  | priorityRange
  /-- It is no high-water mark. -/
  | markRange
  /-- It leaves no pause between two looks at the depth. -/
  | noPause
deriving DecidableEq, Repr

def ValueFault.message : ValueFault → String
  | .numeral e => e.message
  | .boolean => "provided string was not `true` or `false`"
  | .name e => e.message
  | .priorityRange => "must be between 0 and " ++ toString maxPriority.toNat
  | .markRange => "must be -1 (disabled) or a depth of 0 or more"
  | .noPause => "must be greater than zero while admission control is enabled"

/-- What a name was expected to be bound to, or was bound to. -/
inductive EntryKind where
  | connectionFactory
  | destination
deriving DecidableEq, Repr

def EntryKind.name : EntryKind → String
  | .connectionFactory => "connection factory"
  | .destination => "destination"

/-- The steps in which broker resources are acquired. -/
inductive AcquisitionStep where
  | openConnection
  | createSession
  | createProducer
  | applySettings
  | startConnection
deriving DecidableEq, Repr

def AcquisitionStep.name : AcquisitionStep → String
  | .openConnection => "open connection"
  | .createSession => "create session"
  | .createProducer => "create producer"
  | .applySettings => "apply delivery settings"
  | .startConnection => "start connection"

/-- The life of the broker resources of a router. -/
inductive LifecycleState where
  /-- Nothing was acquired yet. -/
  | uninitialized
  /-- Acquisition is under way. -/
  | initializing
  /-- Everything is acquired. -/
  | ready
  /-- Release is under way. -/
  | closing
  /-- Everything is released. -/
  | closed
  /-- Acquisition failed, and what was acquired is released. -/
  | failed
deriving DecidableEq, Repr, Inhabited

namespace LifecycleState

def name : LifecycleState → String
  | .uninitialized => "Uninitialized"
  | .initializing => "Initializing"
  | .ready => "Ready"
  | .closing => "Closing"
  | .closed => "Closed"
  | .failed => "Failed"

/-- The name of a state as messages show it. -/
def display (s : LifecycleState) : String := Text.upper s.name

def all : List LifecycleState := [.uninitialized, .initializing, .ready, .closing, .closed, .failed]

end LifecycleState

/-- Why a router cannot be set up. -/
inductive ConfigurationError where
  | missingSetting (setting : MandatorySetting)
  | invalidValue (name value : String) (fault : ValueFault)
  /-- The directory properties could not be put together. -/
  | directory (cause : NamingError)
  /-- A name could not be resolved. -/
  | naming (name : String) (cause : NamingError)
  /-- A name is bound to something else. -/
  | wrongEntryKind (name : String) (expected found : EntryKind)
  /-- A step of the acquisition failed. -/
  | resource (step : AcquisitionStep) (destination : String) (cause : BrokerError)
  /-- The correlation pattern is malformed. -/
  | template (cause : TemplateError)
  /-- The JSON document is unusable. -/
  | json (fault : JsonFault)
  /-- The resources were or are being acquired before. -/
  | lifecycle (state : LifecycleState)
deriving DecidableEq, Repr

/-- The words for the kind of a configuration error and of its cause. -/
def ConfigurationError.kind : ConfigurationError → String
  | .missingSetting _ => "Configuration.MissingSetting"
  | .invalidValue _ _ _ => "Configuration.InvalidValue"
  | .directory cause => "Configuration.Directory." ++ cause.kind
  | .naming _ cause => "Configuration.Naming." ++ cause.kind
  | .wrongEntryKind _ _ _ => "Configuration.WrongEntryKind"
  | .resource _ _ cause => "Configuration.Resource." ++ cause.kind
  | .template cause => "Configuration.Template." ++ cause.kind
  | .json _ => "Configuration.Json"
  | .lifecycle _ => "Configuration.Lifecycle"

def ConfigurationError.message : ConfigurationError → String
  | .missingSetting setting => "Mandatory setting '" ++ setting.name ++ "' is not configured"
  | .invalidValue name value fault =>
      "Invalid value '" ++ value ++ "' for setting '" ++ name ++ "': " ++ fault.message
  | .directory cause => "Failed to build directory properties: " ++ cause.message
  | .naming name cause => "Lookup of '" ++ name ++ "' failed: " ++ cause.message
  | .wrongEntryKind name expected found =>
      "'" ++ name ++ "' is bound to a " ++ found.name ++ ", expected a " ++ expected.name
  | .resource step destination cause =>
      "Failed to " ++ step.name ++ " for destination '" ++ destination ++ "': " ++ cause.message
  | .template cause => "Invalid correlation id pattern: " ++ cause.message
  | .json _ => "Failed to parse configuration"
  | .lifecycle state => "Cannot initialize while " ++ state.display

namespace Config

/-- Whether an optional text is absent or empty. -/
def isBlankSetting (s : Option String) : Bool := s.all (· = "")

def validate (c : Config) : Except ConfigurationError Unit :=
  if isBlankSetting c.valueKey then .error (.missingSetting .valueKey)
  else if isBlankSetting c.destinationName then .error (.missingSetting .destinationName)
  else if c.connection.factoryName = "" then .error (.missingSetting .factoryName)
  else if c.connection.delivery.priority > maxPriority then
    .error (.invalidValue "priority" (toString c.connection.delivery.priority.toNat) .priorityRange)
  else if c.admission.highWaterMark < admissionDisabled then
    .error (.invalidValue "high_water_mark" (toString c.admission.highWaterMark.toInt) .markRange)
  else if c.admission.isEnabled && c.admission.pollInterval = 0 then
    .error (.invalidValue "poll_interval" "0ms" .noPause)
  else .ok ()

end Config

end Sluice
