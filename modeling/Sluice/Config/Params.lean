import Sluice.Config.Basic

/-! # Flat parameters

Pipeline files configure a router by a flat list of named texts. Each parameter sets one field to
its trimmed text, read in the form of that field; of two with one name the later stays, and a text
that cannot be read fails the whole list, also where a later one would replace it. Unknown names are
ignored. Principal and credential become credentials once the list is read, if either occurs.
-/

namespace Sluice.Config

/-- What a list of parameters has set so far. -/
structure Draft where
  config : Config := {}
  principal : Option String := none
  credential : Option String := none

namespace Draft

def onConnection (d : Draft) (f : ConnectionSettings → ConnectionSettings) : Draft :=
  { d with config := { d.config with connection := f d.config.connection } }

def onDelivery (d : Draft) (f : DeliverySettings → DeliverySettings) : Draft :=
  d.onConnection fun c => { c with delivery := f c.delivery }

def onAdmission (d : Draft) (f : AdmissionConfig → AdmissionConfig) : Draft :=
  { d with config := { d.config with admission := f d.config.admission } }

def onDirectory (d : Draft) (f : Directory.Settings → Directory.Settings) : Draft :=
  { d with config := { d.config with directory := f d.config.directory } }

def toConfig (d : Draft) : Config :=
  if d.principal.isSome || d.credential.isSome then
    (d.onConnection fun c =>
      { c with credentials := some ⟨d.principal.getD "", d.credential.getD ""⟩ }).config
  else d.config

end Draft

def readMillis (value : String) : Except ValueFault Nat :=
  (Text.readNat (Nat.pow 2 64 - 1) value).mapError .numeral

def readFlag (value : String) : Except ValueFault Bool :=
  match Text.readBool? value with
  | some b => .ok b
  | none => .error .boolean

/-- Set the field of a parameter; none if the name is unknown. -/
def setParam? (name value : String) (d : Draft) : Option (Except ValueFault Draft) :=
  match name with
  | "beanId" => some (.ok { d with config := { d.config with valueKey := some value } })
  | "destinationName" =>
      some (.ok { d with config := { d.config with destinationName := some value } })
  | "connectionFactory" => some (.ok (d.onConnection fun c => { c with factoryName := value }))
  | "deliveryMode" => some do
      let mode ← (DeliveryMode.parse value).mapError .name
      return d.onDelivery fun s => { s with deliveryMode := mode }
  | "priority" => some do
      let priority ← (Text.readNat 255 value).mapError .numeral
      return d.onDelivery fun s => { s with priority := UInt8.ofNat priority }
  | "timeToLive" => some do
      let timeToLive ← readMillis value
      return d.onDelivery fun s => { s with timeToLive }
  | "securityPrincipal" => some (.ok { d with principal := some value })
  | "securityCredential" => some (.ok { d with credential := some value })
  | "acknowledgeMode" =>
      some (.ok (d.onConnection fun c =>
        { c with acknowledgeMode := AcknowledgeMode.parseLenient value }))
  | "transacted" => some do
      let transacted ← readFlag value
      return d.onConnection fun c => { c with transacted }
  | "correlationIdPattern" =>
      some (.ok { d with config := { d.config with correlationPattern := some value } })
  | "messageType" => some do
      let messageType ← (MessageType.parse value).mapError .name
      return { d with config := { d.config with messageType } }
  | "highWaterMark" => some do
      let mark ← (Text.readInt (Nat.pow 2 31) (Nat.pow 2 31 - 1) value).mapError .numeral
      return d.onAdmission fun a => { a with highWaterMark := Int32.ofInt mark }
  | "highWaterMarkTimeout" => some do
      let timeout ← readMillis value
      return d.onAdmission fun a => { a with timeout }
  | "highWaterMarkPollFrequency" => some do
      let pollInterval ← readMillis value
      return d.onAdmission fun a => { a with pollInterval }
  | "executeBefore" => some do
      let before ← readFlag value
      return { d with config :=
        { d.config with executionPhase := if before then .before else .after } }
  | "jndiContextFactory" =>
      some (.ok (d.onDirectory fun s => { s with contextFactory := some value }))
  | "jndiProviderUrl" => some (.ok (d.onDirectory fun s => { s with providerUrl := some value }))
  | "jndiNamingFactoryUrl" =>
      some (.ok (d.onDirectory fun s => { s with urlPackagePrefixes := some value }))
  | "jndiPropertiesFile" =>
      some (.ok (d.onDirectory fun s => { s with propertiesFile := some value }))
  | _ => none

def isParam (name : String) : Bool := (setParam? name "" {}).isSome

/-- Apply one parameter; an unknown one changes nothing. -/
def Draft.apply (d : Draft) (param : String × String) : Except ConfigurationError Draft :=
  let value := Text.trim param.2
  match setParam? param.1 value d with
  | none => .ok d
  | some (.ok next) => .ok next
  | some (.error fault) => .error (.invalidValue param.1 value fault)

def Draft.applyAll (d : Draft) : List (String × String) → Except ConfigurationError Draft
  | [] => .ok d
  | param :: rest =>
      match d.apply param with
      | .error e => .error e
      | .ok next => next.applyAll rest

def ofParams (params : List (String × String)) : Except ConfigurationError Config :=
  (Draft.applyAll {} params).map Draft.toConfig

/-- The unknown parameters that are met before the first one that cannot be read. -/
def ignoredParams : List (String × String) → List String
  | [] => []
  | param :: rest =>
      match Draft.apply {} param with
      | .error _ => []
      | .ok _ => if isParam param.1 then ignoredParams rest else param.1 :: ignoredParams rest

end Sluice.Config
