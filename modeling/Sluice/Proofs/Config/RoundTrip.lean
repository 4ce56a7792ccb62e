import Sluice.Config.Json
import Sluice.Proofs.Json.Variants

/-! # Configurations are read back

The JSON text of a configuration is read as that configuration, and so is the text of each document
that differs from it in the order of members, in fields that are left out where they have their
defaults, and in unknown members. Each record is described by its fields once; what is read then
follows from each field being read.
-/

namespace Sluice

namespace Json

/-- The members of an object. -/
def members : Json → List (String × Json)
  | .object members => members
  | _ => []

/-! ### Fields of one value -/

theorem reads_optionalText (s : Option String) :
    (readOptional readString).Reads (ofText? s).renderChars s := by
  cases s with
  | none => exact reads_readOptional_none readString
  | some s => exact reads_readOptional rfl (by decide) (reads_readString s)

theorem reads_readMillis {n : Nat} (h : n < Nat.pow 2 64) :
    readMillis.Reads (Json.number (min n (Nat.pow 2 64 - 1) : Nat)).renderChars n := by
  have hmin : min n (Nat.pow 2 64 - 1) = n := by omega
  rw [hmin]
  have hread : (readWhole 0 (Nat.pow 2 64 - 1)).Reads (Json.number n).renderChars n := by
    have hlow : -(Nat.pow 2 63 : Nat) ≤ (n : Int) := by omega
    exact reads_readWhole (Int.natCast_nonneg n) (Int.le_sub_one_of_lt (Int.ofNat_lt.mpr h)) hlow
      (Int.ofNat_lt.mpr h)
  exact hread.map Int.toNat

theorem reads_byte (n : UInt8) :
    Reader.Reads (do return UInt8.ofNat (← readWhole 0 255).toNat)
      (Json.number n.toNat).renderChars n := by
  have hread : (readWhole 0 255).Reads (Json.number n.toNat).renderChars n.toNat := by
    have hn : n.toNat < 256 := n.toNat_lt
    have hlow : -(Nat.pow 2 63 : Nat) ≤ (n.toNat : Int) := by omega
    have hhigh : (n.toNat : Int) < (Nat.pow 2 64 : Nat) :=
      Int.ofNat_lt.mpr (Nat.lt_trans hn (by decide))
    exact reads_readWhole (Int.natCast_nonneg _) (by omega) hlow hhigh
  have hmapped := hread.map fun i => UInt8.ofNat i.toNat
  rwa [Int.toNat_natCast, UInt8.ofNat_toNat] at hmapped

theorem reads_int32 (n : Int32) :
    Reader.Reads (do return Int32.ofInt (← readWhole (-Nat.pow 2 31) (Nat.pow 2 31 - 1)))
      (Json.number n.toInt).renderChars n := by
  have hread : (readWhole (-Nat.pow 2 31) (Nat.pow 2 31 - 1)).Reads
      (Json.number n.toInt).renderChars n.toInt := by
    have hleast : -(Nat.pow 2 31 : Nat) ≤ n.toInt := n.le_toInt
    have hgreatest : n.toInt < (Nat.pow 2 31 : Nat) := n.toInt_lt
    have hlow : -(Nat.pow 2 63 : Nat) ≤ n.toInt := Int.le_trans (by decide) hleast
    have hhigh : n.toInt < (Nat.pow 2 64 : Nat) := Int.lt_trans hgreatest (by decide)
    exact reads_readWhole hleast (Int.le_sub_one_of_lt hgreatest) hlow hhigh
  have hmapped := hread.map Int32.ofInt
  rwa [Int32.ofInt_toInt] at hmapped

/-- An optional value that is an object is read from each variant that the object is read from. -/
theorem faithful_readOptional {α : Type} {read : Reader α} {form : Form}
    {members : List (String × Json)} {x : α} (h : Faithful read form (.object members) x) :
    Faithful (readOptional read) form (.object members) (some x) := by
  intro j hj
  obtain ⟨members', rfl⟩ : ∃ members', j = .object members' := by
    cases hj <;> exact ⟨_, rfl⟩
  exact reads_readOptional rfl (by decide) (h _ hj)

end Json

open Json

/-! ### Delivery settings -/

namespace DeliverySettings

/-- Where delivery settings may be varied. -/
def form : Form := .record ({} : DeliverySettings).toJson.members []

def slots : List (Slot DeliverySettings) :=
  [⟨"priority", UInt8, priority, fun s v => { s with priority := v }, fun v => .number v.toNat,
      do return UInt8.ofNat (← readWhole 0 255).toNat⟩,
    ⟨"time_to_live", Nat, timeToLive, fun s v => { s with timeToLive := v },
      fun v => .number (min v (Nat.pow 2 64 - 1) : Nat), readMillis⟩,
    ⟨"delivery_mode", DeliveryMode, deliveryMode, fun s v => { s with deliveryMode := v },
      fun v => .string v.name, readName DeliveryMode.jsonNames⟩]

theorem jsonFields_eq : jsonFields = slots.map Slot.field := by
  simp [jsonFields, slots, Slot.field]

theorem complete : Slot.Complete slots where
  nodup := by decide
  get_set := by simp [slots]
  get_set_of_ne := by simp [slots]
  ext := by
    rintro ⟨⟩ ⟨⟩ h
    simpa [slots] using h

theorem faithful_slots {s : DeliverySettings} (h : s.timeToLive < Nat.pow 2 64) :
    ∀ e ∈ slots, Faithful e.read (formOf [] e.name) (e.write (e.get s)) (e.get s) := by
  simp only [slots, List.forall_mem_cons]
  refine ⟨faithful_leaf (reads_byte _), faithful_leaf (reads_readMillis h), ?_,
    List.forall_mem_nil _⟩
  refine faithful_leaf (reads_readName ?_)
  cases s.deliveryMode <;> rfl

theorem faithful {s : DeliverySettings} (h : s.timeToLive < Nat.pow 2 64) :
    Faithful readJson form s.toJson s := by
  rw [readJson, jsonFields_eq]
  exact faithful_readRecord_of_defaults complete (faithful_slots h) (faithful_slots (by decide))

end DeliverySettings

/-! ### Admission settings -/

namespace AdmissionConfig

/-- Where admission settings may be varied. -/
def form : Form := .record ({} : AdmissionConfig).toJson.members []

def slots : List (Slot AdmissionConfig) :=
  [⟨"high_water_mark", Int32, highWaterMark, fun c v => { c with highWaterMark := v },
      fun v => .number v.toInt,
      do return Int32.ofInt (← readWhole (-Nat.pow 2 31) (Nat.pow 2 31 - 1))⟩,
    ⟨"timeout", Nat, timeout, fun c v => { c with timeout := v },
      fun v => .number (min v (Nat.pow 2 64 - 1) : Nat), readMillis⟩,
    ⟨"poll_interval", Nat, pollInterval, fun c v => { c with pollInterval := v },
      fun v => .number (min v (Nat.pow 2 64 - 1) : Nat), readMillis⟩]

theorem jsonFields_eq : jsonFields = slots.map Slot.field := by
  simp [jsonFields, slots, Slot.field]

theorem complete : Slot.Complete slots where
  nodup := by decide
  get_set := by simp [slots]
  get_set_of_ne := by simp [slots]
  ext := by
    rintro ⟨⟩ ⟨⟩ h
    simpa [slots] using h

theorem faithful_slots {c : AdmissionConfig} (htimeout : c.timeout < Nat.pow 2 64)
    (hpause : c.pollInterval < Nat.pow 2 64) :
    ∀ e ∈ slots, Faithful e.read (formOf [] e.name) (e.write (e.get c)) (e.get c) := by
  simp only [slots, List.forall_mem_cons]
  exact ⟨faithful_leaf (reads_int32 _), faithful_leaf (reads_readMillis htimeout),
    faithful_leaf (reads_readMillis hpause), List.forall_mem_nil _⟩

theorem faithful {c : AdmissionConfig} (htimeout : c.timeout < Nat.pow 2 64)
    (hpause : c.pollInterval < Nat.pow 2 64) : Faithful readJson form c.toJson c := by
  rw [readJson, jsonFields_eq]
  exact faithful_readRecord_of_defaults complete (faithful_slots htimeout hpause)
    (faithful_slots (by decide) (by decide))

end AdmissionConfig

/-! ### Credentials -/

namespace Credentials

/-- Where credentials may be varied: neither half can be missing. -/
def form : Form := .record [] []

def slots : List (Slot Credentials) :=
  [⟨"principal", String, principal, fun c v => { c with principal := v }, .string, readString⟩,
    ⟨"credential", String, credential, fun c v => { c with credential := v }, .string, readString⟩]

theorem complete : Slot.Complete slots where
  nodup := by decide
  get_set := by simp [slots]
  get_set_of_ne := by simp [slots]
  ext := by
    rintro ⟨⟩ ⟨⟩ h
    simpa [slots] using h

theorem reads_slots (c : Credentials) :
    ∀ e ∈ slots, e.read.Reads (e.write (e.get c)).renderChars (e.get c) := by
  simp only [slots, List.forall_mem_cons]
  exact ⟨reads_readString _, reads_readString _, List.forall_mem_nil _⟩

theorem faithful (c : Credentials) : Faithful readJson form c.toJson c :=
  faithful_readRecord complete
    (fun e he => faithful_leaf (reads_slots c e he)) (reads_slots _) (List.forall_mem_nil _)
    (by decide)

end Credentials

/-! ### Connections -/

namespace ConnectionSettings

/-- Where connection settings may be varied. -/
def form : Form :=
  .record ({} : ConnectionSettings).toJson.members
    [("credentials", Credentials.form), ("delivery", DeliverySettings.form)]

def slots : List (Slot ConnectionSettings) :=
  [⟨"factory_name", String, factoryName, fun c v => { c with factoryName := v }, .string,
      readString⟩,
    ⟨"credentials", Option Credentials, credentials, fun c v => { c with credentials := v },
      fun v => (v.map Credentials.toJson).getD .null, readOptional Credentials.readJson⟩,
    ⟨"transacted", Bool, transacted, fun c v => { c with transacted := v }, .bool, readBool⟩,
    ⟨"acknowledge_mode", AcknowledgeMode, acknowledgeMode,
      fun c v => { c with acknowledgeMode := v }, fun v => .string v.name,
      readName AcknowledgeMode.jsonNames⟩,
    ⟨"delivery", DeliverySettings, delivery, fun c v => { c with delivery := v },
      DeliverySettings.toJson, DeliverySettings.readJson⟩]

theorem complete : Slot.Complete slots where
  nodup := by decide
  get_set := by simp [slots]
  get_set_of_ne := by simp [slots]
  ext := by
    rintro ⟨⟩ ⟨⟩ h
    simpa [slots] using h

theorem faithful_credentials (c : Option Credentials) :
    Faithful (readOptional Credentials.readJson) Credentials.form
      ((c.map Credentials.toJson).getD .null) c := by
  cases c with
  | none =>
      rintro _ ⟨⟩
      exact reads_readOptional_none _
  | some c => exact faithful_readOptional (Credentials.faithful c)

theorem faithful_slots {c : ConnectionSettings} (h : c.delivery.timeToLive < Nat.pow 2 64) :
    ∀ e ∈ slots, Faithful e.read
      (formOf [("credentials", Credentials.form), ("delivery", DeliverySettings.form)] e.name)
      (e.write (e.get c)) (e.get c) := by
  simp only [slots, List.forall_mem_cons]
  refine ⟨faithful_leaf (reads_readString _), faithful_credentials _,
    faithful_leaf (reads_readBool _), ?_, DeliverySettings.faithful h, List.forall_mem_nil _⟩
  refine faithful_leaf (reads_readName ?_)
  cases c.acknowledgeMode <;> rfl

theorem faithful {c : ConnectionSettings} (h : c.delivery.timeToLive < Nat.pow 2 64) :
    Faithful readJson form c.toJson c :=
  faithful_readRecord_of_defaults complete (faithful_slots h)
    (faithful_slots (by decide))

end ConnectionSettings

/-! ### Directories -/

namespace Directory.Settings

/-- Where directory settings may be varied. -/
def form : Form := .record ({} : Settings).toJson.members [("properties", .map)]

def slots : List (Slot Settings) :=
  [⟨"context_factory", Option String, contextFactory, fun s v => { s with contextFactory := v },
      ofText?, readOptional readString⟩,
    ⟨"provider_url", Option String, providerUrl, fun s v => { s with providerUrl := v }, ofText?,
      readOptional readString⟩,
    ⟨"url_package_prefixes", Option String, urlPackagePrefixes,
      fun s v => { s with urlPackagePrefixes := v }, ofText?, readOptional readString⟩,
    ⟨"properties_file", Option String, propertiesFile, fun s v => { s with propertiesFile := v },
      ofText?, readOptional readString⟩,
    ⟨"properties", Properties, properties, fun s v => { s with properties := v },
      fun v => .object (v.entries.map fun entry => (entry.1, .string entry.2)),
      readMap readString⟩]

theorem complete : Slot.Complete slots where
  nodup := by decide
  get_set := by simp [slots]
  get_set_of_ne := by simp [slots]
  ext := by
    rintro ⟨⟩ ⟨⟩ h
    simpa [slots] using h

theorem faithful_slots (s : Settings) :
    ∀ e ∈ slots, Faithful e.read (formOf [("properties", .map)] e.name) (e.write (e.get s))
      (e.get s) := by
  simp only [slots, List.forall_mem_cons]
  exact ⟨faithful_leaf (reads_optionalText _), faithful_leaf (reads_optionalText _),
    faithful_leaf (reads_optionalText _), faithful_leaf (reads_optionalText _),
    faithful_readMap _, List.forall_mem_nil _⟩

theorem faithful (s : Settings) : Faithful readJson form s.toJson s :=
  faithful_readRecord_of_defaults complete (faithful_slots s) (faithful_slots _)

end Directory.Settings

/-! ### Configurations -/

namespace Config

/-- Where a configuration may be varied. -/
def form : Form :=
  .record ({} : Config).toJson.members
    [("connection", ConnectionSettings.form), ("directory", Directory.Settings.form),
      ("admission", AdmissionConfig.form)]

/-- The times of a configuration can be counted in 64 bits. -/
structure TimesFit (c : Config) : Prop where
  timeToLive : c.connection.delivery.timeToLive < Nat.pow 2 64
  timeout : c.admission.timeout < Nat.pow 2 64
  pollInterval : c.admission.pollInterval < Nat.pow 2 64

def slots : List (Slot Config) :=
  [⟨"value_key", Option String, valueKey, fun c v => { c with valueKey := v }, ofText?,
      readOptional readString⟩,
    ⟨"destination_name", Option String, destinationName,
      fun c v => { c with destinationName := v }, ofText?, readOptional readString⟩,
    ⟨"connection", ConnectionSettings, connection, fun c v => { c with connection := v },
      ConnectionSettings.toJson, ConnectionSettings.readJson⟩,
    ⟨"directory", Directory.Settings, directory, fun c v => { c with directory := v },
      Directory.Settings.toJson, Directory.Settings.readJson⟩,
    ⟨"message_type", MessageType, messageType, fun c v => { c with messageType := v },
      fun v => .string v.name, readName MessageType.jsonNames⟩,
    ⟨"correlation_pattern", Option String, correlationPattern,
      fun c v => { c with correlationPattern := v }, ofText?, readOptional readString⟩,
    ⟨"admission", AdmissionConfig, admission, fun c v => { c with admission := v },
      AdmissionConfig.toJson, AdmissionConfig.readJson⟩,
    ⟨"execution_phase", ExecutionPhase, executionPhase, fun c v => { c with executionPhase := v },
      fun v => .string v.name, readName ExecutionPhase.jsonNames⟩]

theorem complete : Slot.Complete slots where
  nodup := by decide
  get_set := by simp [slots]
  get_set_of_ne := by simp [slots]
  ext := by
    rintro ⟨⟩ ⟨⟩ h
    simpa [slots] using h

theorem faithful_slots {c : Config} (h : c.TimesFit) :
    ∀ e ∈ slots, Faithful e.read
      (formOf [("connection", ConnectionSettings.form), ("directory", Directory.Settings.form),
        ("admission", AdmissionConfig.form)] e.name)
      (e.write (e.get c)) (e.get c) := by
  simp only [slots, List.forall_mem_cons]
  refine ⟨faithful_leaf (reads_optionalText _), faithful_leaf (reads_optionalText _),
    ConnectionSettings.faithful h.timeToLive, Directory.Settings.faithful _,
    faithful_leaf (reads_readName ?_), faithful_leaf (reads_optionalText _),
    AdmissionConfig.faithful h.timeout h.pollInterval, faithful_leaf (reads_readName ?_),
    List.forall_mem_nil _⟩
  · cases c.messageType <;> rfl
  · cases c.executionPhase <;> rfl

theorem faithful {c : Config} (h : c.TimesFit) : Faithful readJson form c.toJson c :=
  faithful_readRecord_of_defaults complete (faithful_slots h)
    (faithful_slots ⟨by decide, by decide, by decide⟩)

/-- A configuration is read from its JSON text, and from the text of each document in which members
stand in another order, fields with their defaults are left out or unknown members are added. -/
theorem ofJson_of_varied {c : Config} (h : c.TimesFit) :
    ofJson c.toJson.render = .ok c ∧
      ∀ j, Varied form c.toJson j → ofJson j.render = .ok c := by
  have hread : ∀ j, Varied form c.toJson j → ofJson j.render = .ok c := by
    intro j hj
    rw [ofJson, Json.render, (faithful h j hj).readDocument]
    rfl
  exact ⟨hread _ (.same _ _), hread⟩

theorem ofJson_of_varied_sparse :
    let c : Config :=
      { valueKey := some "\"\\\n\x01é"
        connection := { delivery := { timeToLive := 18446744073709551615 } }
        directory := { properties := ⟨[("a", "1"), ("b", "2")], by decide⟩ } }
    let properties : Json := .object [("b", .string "2"), ("a", .string "1")]
    let delivery : Json := .object [("x", .bool true), ("time_to_live", .number 18446744073709551615)]
    let j : Json := .object
      [("note", .null), ("directory", .object [("properties", properties)]),
        ("connection", .object [("delivery", delivery)]), ("value_key", .string "\"\\\n\x01é")]
    c.TimesFit ∧ Varied form c.toJson j ∧
      ofJson c.toJson.render = .ok c ∧ ofJson j.render = .ok c := by
  intro c properties delivery j
  have htimes : c.TimesFit := ⟨by decide, by decide, by decide⟩
  have hdirectory : Varied Directory.Settings.form c.directory.toJson
      (.object [("properties", properties)]) := by
    have hproperties : Varied .map (.object [("a", .string "1"), ("b", .string "2")]) properties :=
      .map (.swap _ _ _)
    exact .record (.leave (.head _) (.leave (.tail _ (.head _)) (.leave (.tail _ (.tail _ (.head _)))
      (.leave (.tail _ (.tail _ (.tail _ (.head _)))) (.keep hproperties .nil)))))
      (List.forall_mem_nil _) (.refl _)
  have hdelivery : Varied DeliverySettings.form c.connection.delivery.toJson delivery := by
    have hadded : ∀ member ∈ [("x", Json.bool true)],
        member.1 ∉ c.connection.delivery.toJson.members.map Prod.fst ∧ member.2.IsPlain :=
      List.forall_mem_singleton.mpr ⟨by decide, trivial⟩
    exact .record (.leave (.head _) (.keep (.same _ _) (.leave (.tail _ (.tail _ (.head _))) .nil)))
      hadded (.swap _ _ _)
  have hconnection : Varied ConnectionSettings.form c.connection.toJson
      (.object [("delivery", delivery)]) := by
    exact .record (.leave (.head _) (.leave (.tail _ (.head _)) (.leave (.tail _ (.tail _ (.head _)))
      (.leave (.tail _ (.tail _ (.tail _ (.head _)))) (.keep hdelivery .nil)))))
      (List.forall_mem_nil _) (.refl _)
  have hvaried : Varied form c.toJson j := by
    have hadded : ∀ member ∈ [("note", Json.null)],
        member.1 ∉ c.toJson.members.map Prod.fst ∧ member.2.IsPlain :=
      List.forall_mem_singleton.mpr ⟨by decide, trivial⟩
    exact .record
      (.keep (.same _ _) (.leave (.tail _ (.head _)) (.keep hconnection (.keep hdirectory
        (.leave (.tail _ (.tail _ (.tail _ (.tail _ (.head _)))))
          (.leave (.tail _ (.tail _ (.tail _ (.tail _ (.tail _ (.head _))))))
            (.leave (.tail _ (.tail _ (.tail _ (.tail _ (.tail _ (.tail _ (.head _)))))))
              (.leave (.tail _ (.tail _ (.tail _ (.tail _ (.tail _ (.tail _ (.tail _ (.head _))))))))
                .nil))))))))
      hadded (List.reverse_perm _).symm
  obtain ⟨hsame, hread⟩ := ofJson_of_varied htimes
  exact ⟨htimes, hvaried, hsame, hread j hvaried⟩

end Config

end Sluice
