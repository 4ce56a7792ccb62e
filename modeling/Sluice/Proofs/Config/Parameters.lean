import Mathlib.Data.List.Induction
import Mathlib.Data.List.Nodup
import Mathlib.Tactic.MkIffOfInductiveProp
import Sluice.Config.Params
import Sluice.Proofs.Keyed
import Sluice.Proofs.Text.Numerals

/-! # What a list of parameters says

Each parameter has a type and a field of its own. A list is refused for the first parameter whose
text is no value of its type. Any other list says the default configuration, with each field as the
last parameter of its name sets it, so neither the order of different names nor an unknown name
matters.

The parameters are described once, by how a text is read and which field is set; what a whole list
does then follows from these fields being independent of each other.
-/

namespace Sluice

namespace Config

/-! ### What is to be shown -/

/-- The names of the parameters. -/
def paramNames : List String :=
  ["beanId", "destinationName", "connectionFactory", "deliveryMode", "priority", "timeToLive",
    "securityPrincipal", "securityCredential", "acknowledgeMode", "transacted",
    "correlationIdPattern", "messageType", "highWaterMark", "highWaterMarkTimeout",
    "highWaterMarkPollFrequency", "executeBefore", "jndiContextFactory", "jndiProviderUrl",
    "jndiNamingFactoryUrl", "jndiPropertiesFile"]

/-- A trimmed text is no value of the type of a parameter, and why. The parameters that are not
listed take every text. -/
@[mk_iff]
inductive Refuses (value : String) : String → ValueFault → Prop
  | deliveryMode {e : NameError} (h : DeliveryMode.parse value = .error e) :
      Refuses value "deliveryMode" (.name e)
  | priority {e : Text.NumeralError} (h : Text.readNat 255 value = .error e) :
      Refuses value "priority" (.numeral e)
  | timeToLive {e : Text.NumeralError} (h : Text.readNat (Nat.pow 2 64 - 1) value = .error e) :
      Refuses value "timeToLive" (.numeral e)
  | transacted (h : Text.readBool? value = none) : Refuses value "transacted" .boolean
  | messageType {e : NameError} (h : MessageType.parse value = .error e) :
      Refuses value "messageType" (.name e)
  | highWaterMark {e : Text.NumeralError}
      (h : Text.readInt (Nat.pow 2 31) (Nat.pow 2 31 - 1) value = .error e) :
      Refuses value "highWaterMark" (.numeral e)
  | timeout {e : Text.NumeralError} (h : Text.readNat (Nat.pow 2 64 - 1) value = .error e) :
      Refuses value "highWaterMarkTimeout" (.numeral e)
  | pollInterval {e : Text.NumeralError} (h : Text.readNat (Nat.pow 2 64 - 1) value = .error e) :
      Refuses value "highWaterMarkPollFrequency" (.numeral e)
  | executeBefore (h : Text.readBool? value = none) : Refuses value "executeBefore" .boolean

/-- The trimmed text of a parameter is a value of its type, or its name is unknown. -/
def Accepts (param : String × String) : Prop := ∀ fault, ¬ Refuses (Text.trim param.2) param.1 fault

/-- The first parameter of a list that is refused, with its trimmed text. -/
def FirstRefused (params : List (String × String)) (name value : String) (fault : ValueFault) :
    Prop :=
  ∃ before text behind, params = before ++ (name, text) :: behind ∧ value = Text.trim text ∧
    Refuses value name fault ∧ ∀ param ∈ before, Accepts param

/-- The trimmed text of the last parameter of a name. -/
def lastText? (params : List (String × String)) (name : String) : Option String :=
  (params.filter (·.1 = name)).getLast?.map fun param => Text.trim param.2

/-- The credentials of which at least one half is said. -/
def credentialsOf? : Option String → Option String → Option Credentials
  | none, none => none
  | principal, credential => some ⟨principal.getD "", credential.getD ""⟩

/-- The value that is said under a name, by how the type of the parameter reads it. -/
def value? {ε α : Type} (said : String → Option String) (name : String)
    (read : String → Except ε α) : Option α :=
  (said name).bind fun text => (read text).toOption

/-- Two lists have the same parameters of each name, in the same order. What stands between them,
and parameters of unknown names, do not count. -/
def Alike (params params' : List (String × String)) : Prop :=
  ∀ name ∈ paramNames, params.filter (·.1 = name) = params'.filter (·.1 = name)

instance (params params' : List (String × String)) : Decidable (Alike params params') :=
  List.decidableBAll _ paramNames

/-- A configuration is another one with each field set to what is said under the name of the
field's parameter, if anything is. -/
structure Amends (blank : Config) (said : String → Option String) (c : Config) : Prop where
  valueKey : c.valueKey = (said "beanId").or blank.valueKey
  destinationName : c.destinationName = (said "destinationName").or blank.destinationName
  factoryName : c.connection.factoryName =
    (said "connectionFactory").getD blank.connection.factoryName
  /-- One half is enough, and the other one is empty then. -/
  credentials : c.connection.credentials =
    (credentialsOf? (said "securityPrincipal") (said "securityCredential")).or
      blank.connection.credentials
  transacted : c.connection.transacted =
    ((said "transacted").bind Text.readBool?).getD blank.connection.transacted
  /-- An unknown mode stands for `auto`. -/
  acknowledgeMode : c.connection.acknowledgeMode =
    (said "acknowledgeMode").elim blank.connection.acknowledgeMode fun text =>
      (AcknowledgeMode.parse text).toOption.getD .auto
  priority : c.connection.delivery.priority.toNat =
    (value? said "priority" (Text.readNat 255)).getD blank.connection.delivery.priority.toNat
  timeToLive : c.connection.delivery.timeToLive =
    (value? said "timeToLive" (Text.readNat (Nat.pow 2 64 - 1))).getD
      blank.connection.delivery.timeToLive
  deliveryMode : c.connection.delivery.deliveryMode =
    (value? said "deliveryMode" DeliveryMode.parse).getD blank.connection.delivery.deliveryMode
  contextFactory : c.directory.contextFactory =
    (said "jndiContextFactory").or blank.directory.contextFactory
  providerUrl : c.directory.providerUrl = (said "jndiProviderUrl").or blank.directory.providerUrl
  urlPackagePrefixes : c.directory.urlPackagePrefixes =
    (said "jndiNamingFactoryUrl").or blank.directory.urlPackagePrefixes
  propertiesFile : c.directory.propertiesFile =
    (said "jndiPropertiesFile").or blank.directory.propertiesFile
  properties : c.directory.properties = blank.directory.properties
  messageType : c.messageType = (value? said "messageType" MessageType.parse).getD blank.messageType
  correlationPattern : c.correlationPattern =
    (said "correlationIdPattern").or blank.correlationPattern
  highWaterMark : c.admission.highWaterMark.toInt =
    (value? said "highWaterMark" (Text.readInt (Nat.pow 2 31) (Nat.pow 2 31 - 1))).getD
      blank.admission.highWaterMark.toInt
  timeout : c.admission.timeout =
    (value? said "highWaterMarkTimeout" (Text.readNat (Nat.pow 2 64 - 1))).getD
      blank.admission.timeout
  pollInterval : c.admission.pollInterval =
    (value? said "highWaterMarkPollFrequency" (Text.readNat (Nat.pow 2 64 - 1))).getD
      blank.admission.pollInterval
  executionPhase : c.executionPhase =
    ((said "executeBefore").bind Text.readBool?).elim blank.executionPhase fun before =>
      if before then .before else .after

/-- No other configuration amends the same one by the same. -/
theorem Amends.unique {blank c c' : Config} {said : String → Option String}
    (h : Amends blank said c) (h' : Amends blank said c') : c = c' := by
  have hpriority := UInt8.toNat_inj.mp (h.priority.trans h'.priority.symm)
  have hmark := Int32.toInt_inj.mp (h.highWaterMark.trans h'.highWaterMark.symm)
  rcases c with ⟨_, _, ⟨_, _, _, _, ⟨_, _, _⟩⟩, ⟨_, _, _, _, _⟩, _, _, ⟨_, _, _⟩, _⟩
  rcases c' with ⟨_, _, ⟨_, _, _, _, ⟨_, _, _⟩⟩, ⟨_, _, _, _, _⟩, _, _, ⟨_, _, _⟩, _⟩
  simp only [mk.injEq, ConnectionSettings.mk.injEq, DeliverySettings.mk.injEq,
    Directory.Settings.mk.injEq, AdmissionConfig.mk.injEq]
  cases h
  cases h'
  simp_all

/-! ### The parameters -/

/-- A parameter: how its text is read, and the field of a draft that it sets. -/
structure Param where
  name : String
  Value : Type
  read : String → Except ValueFault Value
  get : Draft → Value
  set : Draft → Value → Draft

namespace Param

def all : List Param :=
  [⟨"beanId", Option String, fun text => .ok (some text), fun d => d.config.valueKey,
      fun d v => { d with config := { d.config with valueKey := v } }⟩,
    ⟨"destinationName", Option String, fun text => .ok (some text),
      fun d => d.config.destinationName,
      fun d v => { d with config := { d.config with destinationName := v } }⟩,
    ⟨"connectionFactory", String, .ok, fun d => d.config.connection.factoryName,
      fun d v => d.onConnection fun c => { c with factoryName := v }⟩,
    ⟨"deliveryMode", DeliveryMode, fun text => (DeliveryMode.parse text).mapError .name,
      fun d => d.config.connection.delivery.deliveryMode,
      fun d v => d.onDelivery fun s => { s with deliveryMode := v }⟩,
    ⟨"priority", UInt8,
      fun text => ((Text.readNat 255 text).mapError .numeral).map UInt8.ofNat,
      fun d => d.config.connection.delivery.priority,
      fun d v => d.onDelivery fun s => { s with priority := v }⟩,
    ⟨"timeToLive", Nat, readMillis, fun d => d.config.connection.delivery.timeToLive,
      fun d v => d.onDelivery fun s => { s with timeToLive := v }⟩,
    ⟨"securityPrincipal", Option String, fun text => .ok (some text), Draft.principal,
      fun d v => { d with principal := v }⟩,
    ⟨"securityCredential", Option String, fun text => .ok (some text), Draft.credential,
      fun d v => { d with credential := v }⟩,
    ⟨"acknowledgeMode", AcknowledgeMode, fun text => .ok (AcknowledgeMode.parseLenient text),
      fun d => d.config.connection.acknowledgeMode,
      fun d v => d.onConnection fun c => { c with acknowledgeMode := v }⟩,
    ⟨"transacted", Bool, readFlag, fun d => d.config.connection.transacted,
      fun d v => d.onConnection fun c => { c with transacted := v }⟩,
    ⟨"correlationIdPattern", Option String, fun text => .ok (some text),
      fun d => d.config.correlationPattern,
      fun d v => { d with config := { d.config with correlationPattern := v } }⟩,
    ⟨"messageType", MessageType, fun text => (MessageType.parse text).mapError .name,
      fun d => d.config.messageType,
      fun d v => { d with config := { d.config with messageType := v } }⟩,
    ⟨"highWaterMark", Int32,
      fun text => ((Text.readInt (Nat.pow 2 31) (Nat.pow 2 31 - 1) text).mapError .numeral).map
        Int32.ofInt,
      fun d => d.config.admission.highWaterMark,
      fun d v => d.onAdmission fun a => { a with highWaterMark := v }⟩,
    ⟨"highWaterMarkTimeout", Nat, readMillis, fun d => d.config.admission.timeout,
      fun d v => d.onAdmission fun a => { a with timeout := v }⟩,
    ⟨"highWaterMarkPollFrequency", Nat, readMillis, fun d => d.config.admission.pollInterval,
      fun d v => d.onAdmission fun a => { a with pollInterval := v }⟩,
    ⟨"executeBefore", ExecutionPhase,
      fun text => (readFlag text).map fun before => if before then .before else .after,
      fun d => d.config.executionPhase,
      fun d v => { d with config := { d.config with executionPhase := v } }⟩,
    ⟨"jndiContextFactory", Option String, fun text => .ok (some text),
      fun d => d.config.directory.contextFactory,
      fun d v => d.onDirectory fun s => { s with contextFactory := v }⟩,
    ⟨"jndiProviderUrl", Option String, fun text => .ok (some text),
      fun d => d.config.directory.providerUrl,
      fun d v => d.onDirectory fun s => { s with providerUrl := v }⟩,
    ⟨"jndiNamingFactoryUrl", Option String, fun text => .ok (some text),
      fun d => d.config.directory.urlPackagePrefixes,
      fun d v => d.onDirectory fun s => { s with urlPackagePrefixes := v }⟩,
    ⟨"jndiPropertiesFile", Option String, fun text => .ok (some text),
      fun d => d.config.directory.propertiesFile,
      fun d v => d.onDirectory fun s => { s with propertiesFile := v }⟩]

theorem names_all : all.map name = paramNames := rfl

theorem eq_of_name {e e' : Param} (he : e ∈ all) (he' : e' ∈ all) (hname : e.name = e'.name) :
    e = e' :=
  List.inj_on_of_nodup_map (by decide) he he' hname

theorem get_set : ∀ e ∈ all, ∀ d v, e.get (e.set d v) = v := by
  simp [all, Draft.onConnection, Draft.onDelivery, Draft.onAdmission, Draft.onDirectory]

theorem get_set_of_ne :
    ∀ e ∈ all, ∀ e' ∈ all, e.name ≠ e'.name → ∀ d v, e'.get (e.set d v) = e'.get d := by
  simp [all, Draft.onConnection, Draft.onDelivery, Draft.onAdmission, Draft.onDirectory]

/-- The two settings for which there is no parameter. -/
def rest (d : Draft) : Properties × Option Credentials :=
  (d.config.directory.properties, d.config.connection.credentials)

theorem rest_set : ∀ e ∈ all, ∀ d v, rest (e.set d v) = rest d := by
  simp [all, rest, Draft.onConnection, Draft.onDelivery, Draft.onAdmission, Draft.onDirectory]

theorem setParam?_of_mem (value : String) (d : Draft) :
    ∀ e ∈ all, setParam? e.name value d = some ((e.read value).map (e.set d)) := by
  have hmap : ∀ {α β : Type} (r : Except ValueFault α) (f : α → β), r.map f = f <$> r :=
    fun _ _ => rfl
  simp [all, setParam?, hmap]

theorem setParam?_of_not_mem {name : String} (h : name ∉ paramNames) (value : String)
    (d : Draft) : setParam? name value d = none := by
  unfold setParam?
  split <;> first | rfl | exact absurd (by decide) h

theorem mapError_eq_error_iff {ε ε' α : Type} {r : Except ε α} {f : ε → ε'} {e : ε'} :
    r.mapError f = .error e ↔ ∃ cause, r = .error cause ∧ e = f cause := by
  cases r <;> simp [Except.mapError, eq_comm]

theorem map_eq_error_iff {ε α β : Type} {r : Except ε α} {f : α → β} {e : ε} :
    r.map f = .error e ↔ r = .error e := by
  cases r <;> simp [Except.map]

theorem readFlag_eq_error_iff {value : String} {fault : ValueFault} :
    readFlag value = .error fault ↔ Text.readBool? value = none ∧ fault = .boolean := by
  unfold readFlag
  split <;> simp [*, eq_comm]

theorem read_eq_error_iff (value : String) (fault : ValueFault) :
    ∀ e ∈ all, e.read value = .error fault ↔ Refuses value e.name fault := by
  simp [all, refuses_iff, readMillis, mapError_eq_error_iff, map_eq_error_iff,
    readFlag_eq_error_iff]

end Param

theorem Refuses.mem_paramNames {value name : String} {fault : ValueFault}
    (h : Refuses value name fault) : name ∈ paramNames := by
  cases h <;> decide

/-! ### One parameter -/

variable {d d' : Draft} {param : String × String} {params : List (String × String)}

theorem apply_of_not_mem (h : param.1 ∉ paramNames) (d : Draft) : d.apply param = .ok d := by
  simp only [Draft.apply, Param.setParam?_of_not_mem h]

theorem apply_of_mem {e : Param} (he : e ∈ Param.all) (hname : e.name = param.1) (d : Draft) :
    d.apply param = match e.read (Text.trim param.2) with
      | .error fault => .error (.invalidValue param.1 (Text.trim param.2) fault)
      | .ok v => .ok (e.set d v) := by
  simp only [Draft.apply, ← hname, Param.setParam?_of_mem _ d e he]
  cases e.read (Text.trim param.2) <;> rfl

theorem exists_param (h : param.1 ∈ paramNames) : ∃ e ∈ Param.all, e.name = param.1 := by
  rw [← Param.names_all] at h
  exact List.mem_map.mp h

theorem apply_eq_error_iff {error : ConfigurationError} :
    d.apply param = .error error ↔ ∃ fault, Refuses (Text.trim param.2) param.1 fault ∧
      error = .invalidValue param.1 (Text.trim param.2) fault := by
  by_cases hmem : param.1 ∈ paramNames
  · obtain ⟨e, he, hname⟩ := exists_param hmem
    rw [apply_of_mem he hname]
    simp only [← hname, ← Param.read_eq_error_iff _ _ e he]
    cases e.read (Text.trim param.2) <;> simp [eq_comm]
  · rw [apply_of_not_mem hmem]
    constructor
    · nofun
    · rintro ⟨fault, hrefuses, -⟩
      exact absurd hrefuses.mem_paramNames hmem

/-- A parameter that is accepted sets its own field and no other. -/
theorem get_apply (h : d.apply param = .ok d') {e : Param} (he : e ∈ Param.all) :
    (param.1 = e.name → e.read (Text.trim param.2) = .ok (e.get d')) ∧
      (param.1 ≠ e.name → e.get d' = e.get d) ∧ Param.rest d' = Param.rest d := by
  by_cases hmem : param.1 ∈ paramNames
  · obtain ⟨own, hown, hname⟩ := exists_param hmem
    rw [apply_of_mem hown hname] at h
    split at h
    next => cases h
    next v hread =>
      obtain rfl := Except.ok.inj h
      refine ⟨fun heq => ?_, fun hne => ?_, Param.rest_set own hown d v⟩
      · obtain rfl := Param.eq_of_name hown he (hname.trans heq)
        rw [hread, Param.get_set own hown]
      · exact Param.get_set_of_ne own hown e he (hname ▸ hne) d v
  · rw [apply_of_not_mem hmem] at h
    obtain rfl := Except.ok.inj h
    refine ⟨fun heq => ?_, fun _ => rfl, rfl⟩
    exact absurd (heq ▸ Param.names_all ▸ List.mem_map_of_mem he) hmem

/-! ### Lists of parameters -/

theorem applyAll_append_singleton (d : Draft) (params : List (String × String))
    (param : String × String) :
    d.applyAll (params ++ [param]) = (d.applyAll params >>= fun next => next.apply param) := by
  induction params generalizing d with
  | nil =>
      have hstart : (d.applyAll [] >>= fun next => next.apply param) = d.apply param := rfl
      rw [hstart, List.nil_append, Draft.applyAll]
      cases d.apply param <;> rfl
  | cons first rest ih =>
      simp only [List.cons_append, Draft.applyAll]
      cases d.apply first with
      | error e => rfl
      | ok next => exact ih next

theorem lastText?_append_singleton (params : List (String × String)) (param : String × String)
    (name : String) :
    lastText? (params ++ [param]) name =
      if param.1 = name then some (Text.trim param.2) else lastText? params name := by
  by_cases h : param.1 = name <;> simp [lastText?, List.filter_append, h]

/-- The last parameter of a name decides, and what is set without a parameter stays. -/
theorem get_applyAll (h : d.applyAll params = .ok d') :
    (∀ e ∈ Param.all, e.get d' = (value? (lastText? params) e.name e.read).getD (e.get d)) ∧
      Param.rest d' = Param.rest d := by
  induction params using List.reverseRecOn generalizing d' with
  | nil =>
      obtain rfl := Except.ok.inj h
      exact ⟨fun e _ => rfl, rfl⟩
  | append_singleton params param ih =>
      rw [applyAll_append_singleton] at h
      obtain ⟨next, hnext, happly⟩ := exists_of_bind_eq_ok h
      obtain ⟨hget, hrest⟩ := ih hnext
      constructor
      · intro e he
        obtain ⟨hown, hother, -⟩ := get_apply happly he
        by_cases hname : param.1 = e.name
        · rw [value?, lastText?_append_singleton, if_pos hname, Option.bind_some, hown hname]
          rfl
        · rw [value?, lastText?_append_singleton, if_neg hname, hother hname, hget e he, value?]
      · obtain ⟨e, he⟩ : ∃ e, e ∈ Param.all := ⟨_, List.mem_cons_self⟩
        rw [(get_apply happly he).2.2, hrest]

theorem firstRefused_cons_iff {name value : String} {fault : ValueFault} :
    FirstRefused (param :: params) name value fault ↔
      (param.1 = name ∧ Text.trim param.2 = value ∧ Refuses value name fault) ∨
        (Accepts param ∧ FirstRefused params name value fault) := by
  constructor
  · rintro ⟨_ | ⟨first, before⟩, text, behind, heq, rfl, hrefuses, hbefore⟩
    · obtain ⟨rfl, rfl⟩ := List.cons.inj heq
      exact .inl ⟨rfl, rfl, hrefuses⟩
    · obtain ⟨rfl, rfl⟩ := List.cons.inj heq
      obtain ⟨hfirst, hbefore⟩ := List.forall_mem_cons.mp hbefore
      exact .inr ⟨hfirst, before, text, behind, rfl, rfl, hrefuses, hbefore⟩
  · rintro (⟨rfl, rfl, hrefuses⟩ | ⟨haccepts, before, text, behind, rfl, rfl, hrefuses, hbefore⟩)
    · exact ⟨[], param.2, params, rfl, rfl, hrefuses, List.forall_mem_nil _⟩
    · exact ⟨param :: before, text, behind, rfl, rfl, hrefuses,
        List.forall_mem_cons.mpr ⟨haccepts, hbefore⟩⟩

/-- It does not matter what was set before. -/
theorem applyAll_eq_error_iff {error : ConfigurationError} :
    d.applyAll params = .error error ↔ ∃ name value fault, FirstRefused params name value fault ∧
      error = .invalidValue name value fault := by
  -- whether a parameter is refused does not depend on the draft, so the draft is generalized
  induction params generalizing d with
  | nil => simp [Draft.applyAll, FirstRefused]
  | cons param rest ih =>
      simp only [firstRefused_cons_iff]
      rw [Draft.applyAll]
      cases happly : d.apply param with
      | error e =>
          constructor
          · intro herror
            obtain rfl := Except.error.inj herror
            obtain ⟨fault, hrefuses, rfl⟩ := apply_eq_error_iff.mp happly
            exact ⟨_, _, fault, .inl ⟨rfl, rfl, hrefuses⟩, rfl⟩
          · rintro ⟨_, _, fault, ⟨rfl, rfl, hrefuses⟩ | ⟨haccepts, -⟩, rfl⟩
            · exact happly.symm.trans (apply_eq_error_iff.mpr ⟨fault, hrefuses, rfl⟩)
            · obtain ⟨fault, hrefuses, -⟩ := apply_eq_error_iff.mp happly
              exact absurd hrefuses (haccepts fault)
      | ok next =>
          have haccepts : Accepts param := by
            intro fault hrefuses
            have herror : d.apply param = .error _ := apply_eq_error_iff.mpr ⟨fault, hrefuses, rfl⟩
            rw [happly] at herror
            cases herror
          simp only [ih]
          constructor
          · rintro ⟨name, value, fault, hfirst, rfl⟩
            exact ⟨name, value, fault, .inr ⟨haccepts, hfirst⟩, rfl⟩
          · rintro ⟨name, value, fault, ⟨rfl, rfl, hrefuses⟩ | ⟨-, hfirst⟩, rfl⟩
            · exact absurd hrefuses (haccepts fault)
            · exact ⟨name, value, fault, hfirst, rfl⟩

theorem exists_firstRefused_iff :
    (∃ name value fault, FirstRefused params name value fault) ↔
      ∃ param ∈ params, ¬ Accepts param := by
  constructor
  · rintro ⟨name, _, fault, before, text, behind, rfl, rfl, hrefuses, -⟩
    refine ⟨(name, text), by simp, ?_⟩
    exact fun haccepts => haccepts fault hrefuses
  · rintro ⟨param, hmem, hparam⟩
    induction params with
    | nil => cases hmem
    | cons first rest ih =>
        by_cases hfirst : Accepts first
        · have hrest : param ∈ rest := by
            rcases List.mem_cons.mp hmem with rfl | hmem
            · exact absurd hfirst hparam
            · exact hmem
          obtain ⟨name, value, fault, hrefused⟩ := ih hrest
          exact ⟨name, value, fault, firstRefused_cons_iff.mpr (.inr ⟨hfirst, hrefused⟩)⟩
        · simp only [Accepts, not_forall, not_not] at hfirst
          obtain ⟨fault, hrefuses⟩ := hfirst
          exact ⟨_, _, fault, firstRefused_cons_iff.mpr (.inl ⟨rfl, rfl, hrefuses⟩)⟩

/-! ### Parameters of a map -/

theorem lastText?_entries (m : Keyed String) (name : String) :
    lastText? m.entries name = (m.get? name).map Text.trim := by
  rw [lastText?]
  cases hlast : (m.entries.filter (·.1 = name)).getLast? with
  | none =>
      have hnone := List.getLast?_eq_none_iff.mp hlast
      cases hm : m.get? name with
      | none => rfl
      | some text =>
          have hmem : (name, text) ∈ m.entries.filter (·.1 = name) := by
            simpa using Keyed.mem_entries_iff.mpr hm
          rw [hnone] at hmem
          cases hmem
  | some param =>
      have hmem := List.mem_of_getLast? hlast
      obtain ⟨hentry, rfl⟩ : param ∈ m.entries ∧ param.1 = name := by simpa using hmem
      rw [Keyed.mem_entries_iff.mp hentry]
      rfl

/-- Among the parameters of a map, the first one is that of the least name. -/
theorem firstRefused_entries_iff {m : Keyed String} {name value : String} {fault : ValueFault} :
    FirstRefused m.entries name value fault ↔
      (∃ text, m.get? name = some text ∧ value = Text.trim text) ∧ Refuses value name fault ∧
        ∀ other < name, ∀ text, m.get? other = some text → Accepts (other, text) := by
  have hordered := m.ordered
  constructor
  · rintro ⟨before, text, behind, heq, rfl, hrefuses, hbefore⟩
    have hsaid : (name, text) ∈ m.entries := heq ▸ List.mem_append_right _ List.mem_cons_self
    refine ⟨⟨text, Keyed.mem_entries_iff.mp hsaid, rfl⟩, hrefuses, fun other hlt text' h => ?_⟩
    have hmem := Keyed.mem_entries_iff.mpr h
    rw [heq] at hmem hordered
    obtain ⟨hbehind, -⟩ := List.pairwise_cons.mp (List.pairwise_append.mp hordered).2.1
    rcases List.mem_append.mp hmem with hmem | hmem
    · exact hbefore _ hmem
    · rcases List.mem_cons.mp hmem with hsame | hmem
      · exact absurd ((Prod.mk.inj hsame).1 ▸ hlt) (String.lt_irrefl name)
      · exact absurd (String.lt_trans hlt (hbehind _ hmem)) (String.lt_irrefl other)
  · rintro ⟨⟨text, htext, rfl⟩, hrefuses, hfirst⟩
    obtain ⟨before, behind, heq⟩ := List.append_of_mem (Keyed.mem_entries_iff.mpr htext)
    refine ⟨before, text, behind, heq, rfl, hrefuses, fun param hmem => ?_⟩
    rw [heq] at hordered
    have hlt := (List.pairwise_append.mp hordered).2.2 param hmem _ List.mem_cons_self
    have hparam : param ∈ m.entries := heq ▸ List.mem_append_left _ hmem
    exact hfirst param.1 hlt param.2 (Keyed.mem_entries_iff.mp hparam)

/-! ### Configurations -/

theorem Draft.toConfig_eq (d : Draft) :
    d.toConfig = { d.config with connection := { d.config.connection with
      credentials :=
        (credentialsOf? d.principal d.credential).or d.config.connection.credentials } } := by
  obtain ⟨c, principal, credential⟩ := d
  cases principal <;> cases credential <;> rfl

section

variable (said : String → Option String) (name : String)

theorem value?_text (blank : Option String) :
    (value? said name fun text => (.ok (some text) : Except ValueFault _)).getD blank =
      (said name).or blank := by
  rw [value?]
  cases said name <;> rfl

theorem value?_string (blank : String) :
    (value? said name fun text => (.ok text : Except ValueFault _)).getD blank =
      (said name).getD blank := by
  rw [value?]
  cases said name <;> rfl

theorem value?_lenient (blank : AcknowledgeMode) :
    (value? said name fun text =>
        (.ok (AcknowledgeMode.parseLenient text) : Except ValueFault _)).getD blank =
      (said name).elim blank fun text => (AcknowledgeMode.parse text).toOption.getD .auto := by
  rw [value?]
  cases said name with
  | none => rfl
  | some text =>
      simp only [Option.bind_some, Option.elim_some, AcknowledgeMode.parseLenient]
      cases AcknowledgeMode.parse text <;> rfl

theorem value?_mapError {ε ε' α : Type} (read : String → Except ε α) (f : ε → ε') :
    (value? said name fun text => (read text).mapError f) = value? said name read := by
  rw [value?, value?]
  congr
  funext text
  cases read text <;> rfl

theorem value?_millis :
    value? said name readMillis = value? said name (Text.readNat (Nat.pow 2 64 - 1)) :=
  value?_mapError said name _ _

theorem value?_flag : value? said name readFlag = (said name).bind Text.readBool? := by
  rw [value?]
  congr
  funext text
  rw [readFlag]
  cases Text.readBool? text <;> rfl

theorem value?_map {ε α β : Type} (read : String → Except ε α) (f : α → β) :
    (value? said name fun text => (read text).map f) = (value? said name read).map f := by
  rw [value?, value?, Option.map_bind]
  congr
  funext text
  cases h : read text <;> simp [h, Except.map, Except.toOption]

end

theorem exists_text_of_value? {ε α : Type} {said : String → Option String} {name : String}
    {read : String → Except ε α} {x : α} (h : value? said name read = some x) :
    ∃ text, read text = .ok x := by
  obtain ⟨text, -, hread⟩ := Option.bind_eq_some_iff.mp h
  refine ⟨text, ?_⟩
  cases htext : read text <;> simp_all [Except.toOption]

theorem amends_toConfig (h : Draft.applyAll {} params = .ok d) :
    Amends {} (lastText? params) d.toConfig := by
  obtain ⟨hget, hrest⟩ := get_applyAll h
  obtain ⟨hproperties, hcredentials⟩ := Prod.mk.inj hrest
  generalize lastText? params = said at hget
  simp only [Param.all, List.forall_mem_cons, value?_text, value?_string, value?_lenient,
    value?_mapError, value?_map, value?_millis, value?_flag] at hget
  obtain ⟨hkey, hdestination, hfactory, hmode, hpriority, htime, hprincipal, hcredential, hack,
    htransacted, hpattern, htype, hmark, htimeout, hpoll, hphase, hcontext, hurl, hprefixes, hfile,
    -⟩ := hget
  rw [Option.or_none] at hprincipal hcredential
  rw [Draft.toConfig_eq, hprincipal, hcredential, hcredentials]
  refine ⟨hkey, hdestination, hfactory, rfl, htransacted, hack, ?_, htime, hmode, hcontext, hurl,
    hprefixes, hfile, hproperties, htype, hpattern, ?_, htimeout, hpoll, ?_⟩
  · change d.config.connection.delivery.priority.toNat = _
    rw [hpriority]
    cases hvalue : value? said "priority" (Text.readNat 255) with
    | none => rfl
    | some n =>
        obtain ⟨text, htext⟩ := exists_text_of_value? hvalue
        have hle := Text.readNat_le htext
        exact UInt8.toNat_ofNat_of_lt' (Nat.lt_succ_of_le hle)
  · change d.config.admission.highWaterMark.toInt = _
    rw [hmark]
    cases hvalue : value? said "highWaterMark" (Text.readInt (Nat.pow 2 31) (Nat.pow 2 31 - 1)) with
    | none => rfl
    | some i =>
        obtain ⟨text, htext⟩ := exists_text_of_value? hvalue
        obtain ⟨hlow, hhigh⟩ := Text.readInt_mem htext
        exact Int32.toInt_ofInt_of_le hlow (Int.lt_of_le_of_lt hhigh (by decide))
  · change d.config.executionPhase = _
    rw [hphase]
    cases (said "executeBefore").bind Text.readBool? <;> rfl

theorem ofParams_eq_ok_iff {c : Config} :
    ofParams params = .ok c ↔
      (∀ param ∈ params, Accepts param) ∧ Amends {} (lastText? params) c := by
  cases happlied : Draft.applyAll {} params with
  | error error =>
      obtain ⟨name, value, fault, hfirst, -⟩ := applyAll_eq_error_iff.mp happlied
      obtain ⟨param, hmem, hparam⟩ := exists_firstRefused_iff.mp ⟨name, value, fault, hfirst⟩
      rw [ofParams, happlied]
      constructor
      · nofun
      · rintro ⟨haccepts, -⟩
        exact absurd (haccepts param hmem) hparam
  | ok d =>
      have hamends := amends_toConfig happlied
      rw [ofParams, happlied]
      constructor
      · intro hc
        obtain rfl := Except.ok.inj hc
        refine ⟨fun param hmem => ?_, hamends⟩
        by_contra hparam
        obtain ⟨name, value, fault, hfirst⟩ := exists_firstRefused_iff.mpr ⟨param, hmem, hparam⟩
        have herror : Draft.applyAll {} params = .error _ :=
          applyAll_eq_error_iff.mpr ⟨name, value, fault, hfirst, rfl⟩
        rw [happlied] at herror
        cases herror
      · rintro ⟨-, hc⟩
        exact congrArg Except.ok (hamends.unique hc)

theorem ofParams_eq_error_iff {error : ConfigurationError} :
    ofParams params = .error error ↔ ∃ name value fault, FirstRefused params name value fault ∧
      error = .invalidValue name value fault := by
  rw [← applyAll_eq_error_iff, ofParams, Param.map_eq_error_iff]

/-- Parameters of unknown names change nothing. -/
theorem applyAll_filter (d : Draft) (params : List (String × String)) :
    d.applyAll (params.filter (·.1 ∈ paramNames)) = d.applyAll params := by
  induction params generalizing d with
  | nil => rfl
  | cons param rest ih =>
      by_cases hmem : param.1 ∈ paramNames
      · simp only [List.filter_cons, hmem, decide_true, if_true, Draft.applyAll, ih]
      · simp only [List.filter_cons, hmem, decide_false, Bool.false_eq_true, if_false, ih,
          Draft.applyAll, apply_of_not_mem hmem]

theorem ofParams_filter (params : List (String × String)) :
    ofParams (params.filter (·.1 ∈ paramNames)) = ofParams params := by
  rw [ofParams, applyAll_filter, ofParams]

/-- Without the unknown names, lists that are alike have the same parameters of every name. -/
theorem Alike.filter_eq {params' : List (String × String)} (h : Alike params params')
    (name : String) :
    (params.filter (·.1 ∈ paramNames)).filter (·.1 = name) =
      (params'.filter (·.1 ∈ paramNames)).filter (·.1 = name) := by
  simp only [List.filter_filter]
  by_cases hname : name ∈ paramNames
  · have hsame : ∀ param : String × String,
        (decide (param.1 = name) && decide (param.1 ∈ paramNames)) = decide (param.1 = name) := by
      intro param
      by_cases heq : param.1 = name <;> simp [heq, hname]
    simp only [hsame]
    exact h name hname
  · have hnone : ∀ param : String × String,
        (decide (param.1 = name) && decide (param.1 ∈ paramNames)) = false := by
      intro param
      by_cases heq : param.1 = name <;> simp [heq, hname]
    simp only [hnone, List.filter_false]

theorem Alike.ofParams_eq_ok_iff {params' : List (String × String)} (h : Alike params params')
    (c : Config) : ofParams params = .ok c ↔ ofParams params' = .ok c := by
  rw [← ofParams_filter params, ← ofParams_filter params', Config.ofParams_eq_ok_iff,
    Config.ofParams_eq_ok_iff]
  have hlast : lastText? (params.filter (·.1 ∈ paramNames)) =
      lastText? (params'.filter (·.1 ∈ paramNames)) := by
    funext name
    rw [lastText?, lastText?, h.filter_eq]
  have hmem : ∀ param, param ∈ params.filter (·.1 ∈ paramNames) ↔
      param ∈ params'.filter (·.1 ∈ paramNames) := by
    intro param
    have hown : ∀ list : List (String × String),
        param ∈ list ↔ param ∈ list.filter (·.1 = param.1) := by simp
    rw [hown, h.filter_eq, ← hown]
  simp only [hlast, hmem]

/-- A list of parameters is refused if some parameter is, whatever stands behind it, and for the
first one that is. Otherwise it says the default configuration with each field set by the last
parameter of its name. So the order of parameters matters only among those of one name, and unknown
names do not matter at all. -/
theorem ofParams_exact (params : List (String × String)) :
    ((∃ error, ofParams params = .error error) ↔ ∃ param ∈ params, ¬ Accepts param) ∧
      (∀ error, ofParams params = .error error ↔ ∃ name value fault,
        FirstRefused params name value fault ∧ error = .invalidValue name value fault) ∧
      (∀ c, ofParams params = .ok c ↔
        (∀ param ∈ params, Accepts param) ∧ Amends {} (lastText? params) c) ∧
      (∀ params', Alike params params' →
        ∀ c, ofParams params = .ok c ↔ ofParams params' = .ok c) ∧
      ∀ params', params.filter (·.1 ∈ paramNames) = params'.filter (·.1 ∈ paramNames) →
        ofParams params = ofParams params' := by
  refine ⟨?_, fun error => ofParams_eq_error_iff, fun c => ofParams_eq_ok_iff,
    fun params' halike => halike.ofParams_eq_ok_iff, fun params' hfilter => ?_⟩
  · rw [← exists_firstRefused_iff]
    simp only [ofParams_eq_error_iff]
    constructor
    · rintro ⟨error, name, value, fault, hfirst, -⟩
      exact ⟨name, value, fault, hfirst⟩
    · rintro ⟨name, value, fault, hfirst⟩
      exact ⟨_, name, value, fault, hfirst, rfl⟩
  · rw [← ofParams_filter params, hfilter, ofParams_filter]

/-- A half of the credentials, an unknown mode, a sign and white space, and a name that occurs
twice. The same parameters in another order with an unknown one in between say the same. A text that
is no duration is refused although a later one would replace it. -/
theorem ofParams_exact_repeated :
    let params := [("beanId", " order "), ("priority", "9"), ("acknowledgeMode", "none"),
      ("priority", " +3"), ("securityCredential", "key")]
    let params' := [("priority", "9"), ("color", "red"), ("securityCredential", "key"),
      ("beanId", " order "), ("priority", " +3"), ("acknowledgeMode", "none")]
    let refused := params ++ [("timeToLive", " soon"), ("transacted", "maybe"), ("timeToLive", "5")]
    let c : Config :=
      { valueKey := some "order"
        connection := { credentials := some ⟨"", "key"⟩, delivery := { priority := 3 } } }
    Alike params params' ∧ ofParams params = .ok c ∧ ofParams params' = .ok c ∧
      ofParams refused = .error (.invalidValue "timeToLive" "soon" (.numeral .invalidDigit)) := by
  intro params params' refused c
  have halike : Alike params params' := by decide
  have hparams : ofParams params = .ok c := by decide
  obtain ⟨-, -, hok, hreordered, -⟩ := ofParams_exact params
  have haccepts : ∀ param ∈ params, Accepts param := ((hok c).mp hparams).1
  have hfirst : FirstRefused refused "timeToLive" "soon" (.numeral .invalidDigit) :=
    ⟨params, " soon", [("transacted", "maybe"), ("timeToLive", "5")], rfl, by decide,
      .timeToLive (by decide), haccepts⟩
  exact ⟨halike, hparams, (hreordered params' halike c).mp hparams,
    ((ofParams_exact refused).2.1 _).mpr ⟨_, _, _, hfirst, rfl⟩⟩

end Config

end Sluice
