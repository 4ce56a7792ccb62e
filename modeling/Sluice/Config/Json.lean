import Sluice.Config.Basic
import Sluice.Json.Printer
import Sluice.Json.Reader

/-! # Configurations in JSON

A configuration is written as an object with one member for each field; times are milliseconds,
modes are names, and absent settings are `null`. When it is read, fields that are missing keep their
defaults, except that credentials need both of theirs. A record may also be written as the array of
its fields in order.
-/

namespace Sluice

def Json.ofText? : Option String → Json
  | none => .null
  | some s => .string s

def DeliveryMode.jsonNames : List (String × DeliveryMode) :=
  [("persistent", .persistent), ("non-persistent", .nonPersistent)]

def AcknowledgeMode.jsonNames : List (String × AcknowledgeMode) :=
  [("AUTO_ACKNOWLEDGE", .auto), ("CLIENT_ACKNOWLEDGE", .client), ("DUPS_OK_ACKNOWLEDGE", .dupsOk)]

def MessageType.jsonNames : List (String × MessageType) :=
  [("text", .text), ("map", .map), ("object", .object)]

namespace ExecutionPhase

def name : ExecutionPhase → String
  | .before => "before"
  | .after => "after"

def jsonNames : List (String × ExecutionPhase) := [("before", .before), ("after", .after)]

end ExecutionPhase

namespace Json

def readMillis : Reader Nat := do
  return (← readWhole 0 (Nat.pow 2 64 - 1)).toNat

end Json

namespace DeliverySettings

/-- The JSON form of delivery settings. A longer time than 64 bits hold is written as the
longest. -/
def toJson (s : DeliverySettings) : Json :=
  .object [("priority", .number s.priority.toNat),
    ("time_to_live", .number (min s.timeToLive (Nat.pow 2 64 - 1) : Nat)),
    ("delivery_mode", .string s.deliveryMode.name)]

def jsonFields : List (Json.RecordField DeliverySettings) :=
  [⟨"priority", fun s => do
      return { s with priority := UInt8.ofNat (← Json.readWhole 0 255).toNat }⟩,
    ⟨"time_to_live", fun s => do return { s with timeToLive := ← Json.readMillis }⟩,
    ⟨"delivery_mode", fun s => do
      return { s with deliveryMode := ← Json.readName DeliveryMode.jsonNames }⟩]

def readJson : Json.Reader DeliverySettings := Json.readRecord jsonFields [] {}

end DeliverySettings

namespace AdmissionConfig

/-- The JSON form of admission settings. A longer time than 64 bits hold is written as the
longest. -/
def toJson (c : AdmissionConfig) : Json :=
  .object [("high_water_mark", .number c.highWaterMark.toInt),
    ("timeout", .number (min c.timeout (Nat.pow 2 64 - 1) : Nat)),
    ("poll_interval", .number (min c.pollInterval (Nat.pow 2 64 - 1) : Nat))]

def jsonFields : List (Json.RecordField AdmissionConfig) :=
  [⟨"high_water_mark", fun c => do
      let mark ← Json.readWhole (-Nat.pow 2 31) (Nat.pow 2 31 - 1)
      return { c with highWaterMark := Int32.ofInt mark }⟩,
    ⟨"timeout", fun c => do return { c with timeout := ← Json.readMillis }⟩,
    ⟨"poll_interval", fun c => do return { c with pollInterval := ← Json.readMillis }⟩]

def readJson : Json.Reader AdmissionConfig := Json.readRecord jsonFields [] {}

end AdmissionConfig

namespace Credentials

def toJson (c : Credentials) : Json :=
  .object [("principal", .string c.principal), ("credential", .string c.credential)]

def jsonFields : List (Json.RecordField Credentials) :=
  [⟨"principal", fun c => do return { c with principal := ← Json.readString }⟩,
    ⟨"credential", fun c => do return { c with credential := ← Json.readString }⟩]

/-- Read credentials, of which both halves have to be there. -/
def readJson : Json.Reader Credentials :=
  Json.readRecord jsonFields ["principal", "credential"] ⟨"", ""⟩

end Credentials

namespace ConnectionSettings

def toJson (c : ConnectionSettings) : Json :=
  .object [("factory_name", .string c.factoryName),
    ("credentials", (c.credentials.map Credentials.toJson).getD .null),
    ("transacted", .bool c.transacted),
    ("acknowledge_mode", .string c.acknowledgeMode.name),
    ("delivery", c.delivery.toJson)]

def jsonFields : List (Json.RecordField ConnectionSettings) :=
  [⟨"factory_name", fun c => do return { c with factoryName := ← Json.readString }⟩,
    ⟨"credentials", fun c => do
      return { c with credentials := ← Json.readOptional Credentials.readJson }⟩,
    ⟨"transacted", fun c => do return { c with transacted := ← Json.readBool }⟩,
    ⟨"acknowledge_mode", fun c => do
      return { c with acknowledgeMode := ← Json.readName AcknowledgeMode.jsonNames }⟩,
    ⟨"delivery", fun c => do return { c with delivery := ← DeliverySettings.readJson }⟩]

def readJson : Json.Reader ConnectionSettings := Json.readRecord jsonFields [] {}

end ConnectionSettings

namespace Directory.Settings

def toJson (s : Settings) : Json :=
  .object [("context_factory", Json.ofText? s.contextFactory),
    ("provider_url", Json.ofText? s.providerUrl),
    ("url_package_prefixes", Json.ofText? s.urlPackagePrefixes),
    ("properties_file", Json.ofText? s.propertiesFile),
    ("properties", .object (s.properties.entries.map fun entry => (entry.1, .string entry.2)))]

def jsonFields : List (Json.RecordField Settings) :=
  [⟨"context_factory", fun s => do
      return { s with contextFactory := ← Json.readOptional Json.readString }⟩,
    ⟨"provider_url", fun s => do
      return { s with providerUrl := ← Json.readOptional Json.readString }⟩,
    ⟨"url_package_prefixes", fun s => do
      return { s with urlPackagePrefixes := ← Json.readOptional Json.readString }⟩,
    ⟨"properties_file", fun s => do
      return { s with propertiesFile := ← Json.readOptional Json.readString }⟩,
    ⟨"properties", fun s => do return { s with properties := ← Json.readMap Json.readString }⟩]

def readJson : Json.Reader Settings := Json.readRecord jsonFields [] {}

end Directory.Settings

namespace Config

def toJson (c : Config) : Json :=
  .object [("value_key", Json.ofText? c.valueKey),
    ("destination_name", Json.ofText? c.destinationName),
    ("connection", c.connection.toJson),
    ("directory", c.directory.toJson),
    ("message_type", .string c.messageType.name),
    ("correlation_pattern", Json.ofText? c.correlationPattern),
    ("admission", c.admission.toJson),
    ("execution_phase", .string c.executionPhase.name)]

def jsonFields : List (Json.RecordField Config) :=
  [⟨"value_key", fun c => do return { c with valueKey := ← Json.readOptional Json.readString }⟩,
    ⟨"destination_name", fun c => do
      return { c with destinationName := ← Json.readOptional Json.readString }⟩,
    ⟨"connection", fun c => do return { c with connection := ← ConnectionSettings.readJson }⟩,
    ⟨"directory", fun c => do return { c with directory := ← Directory.Settings.readJson }⟩,
    ⟨"message_type", fun c => do
      return { c with messageType := ← Json.readName MessageType.jsonNames }⟩,
    ⟨"correlation_pattern", fun c => do
      return { c with correlationPattern := ← Json.readOptional Json.readString }⟩,
    ⟨"admission", fun c => do return { c with admission := ← AdmissionConfig.readJson }⟩,
    ⟨"execution_phase", fun c => do
      return { c with executionPhase := ← Json.readName ExecutionPhase.jsonNames }⟩]

def readJson : Json.Reader Config := Json.readRecord jsonFields [] {}

def ofJson (text : String) : Except ConfigurationError Config :=
  (Json.readDocument readJson text).mapError .json

end Config

end Sluice
