import Sluice.Router.Basic

/-! # Outlines of errors

A program that ends early shows the outline of the error that ended it: the name of each cause with
what it holds, down to the first cause.
-/

namespace Sluice

open Text (Outline)

def TemplateError.outline : TemplateError → Outline
  | .unterminated pattern => .record "Unterminated" [("pattern", .quoted pattern)]
  | .emptyPlaceholder pattern => .record "EmptyPlaceholder" [("pattern", .quoted pattern)]
  | .missingValue name pattern =>
      .record "MissingValue" [("name", .quoted name), ("pattern", .quoted pattern)]

def NamingError.outline : NamingError → Outline
  | .notBound name => .record "NotBound" [("name", .quoted name)]
  | .missingProperty name => .record "MissingProperty" [("name", .quoted name)]
  | .invalidProperty name reason =>
      .record "InvalidProperty" [("name", .quoted name), ("reason", .quoted reason)]
  | .propertiesFile path fault =>
      .record "PropertiesFile" [("path", .quoted path), ("reason", .quoted fault.message)]

def BrokerError.outline : BrokerError → Outline
  | .closed kind => .wrapped "Closed" (.quoted kind.label)
  | .authentication principal => .record "Authentication" [("principal", .quoted principal)]
  | .unsupported feature => .wrapped "Unsupported" (.quoted feature.message)
  | .invalidDestination name fault =>
      .record "InvalidDestination" [("name", .quoted name), ("reason", .quoted fault.message)]
  | .transport fault => .wrapped "Transport" (.quoted fault.message)
  | .clientGone => .word "Mqtt"
  | .unreachable reason => .wrapped "MqttConnection" (.quoted reason)

def ConfigurationError.outline : ConfigurationError → Outline
  | .missingSetting setting => .record "MissingSetting" [("name", .quoted setting.name)]
  | .invalidValue name value fault =>
      .record "InvalidValue"
        [("name", .quoted name), ("value", .quoted value), ("reason", .quoted fault.message)]
  | .directory cause => .wrapped "Directory" cause.outline
  | .naming name cause => .record "Naming" [("name", .quoted name), ("source", cause.outline)]
  | .wrongEntryKind name expected found =>
      .record "WrongEntryKind"
        [("name", .quoted name), ("expected", .quoted expected.name), ("found", .quoted found.name)]
  | .resource step destination cause =>
      .record "Resource"
        [("step", .quoted step.name), ("destination", .quoted destination),
          ("source", cause.outline)]
  | .template cause => .wrapped "Template" cause.outline
  | .json fault => .wrapped "Json" (.word fault.kind)
  | .lifecycle state =>
      .record "Lifecycle" [("operation", .quoted "initialize"), ("state", .word state.name)]

end Sluice
