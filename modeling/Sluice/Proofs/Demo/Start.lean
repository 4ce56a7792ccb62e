import Sluice.Demo.Basic
import Sluice.Proofs.Config.Parameters
import Sluice.Proofs.Resources.Willing

/-! # How the demo starts

While no foreign broker is named, the demo ends at once for one of five reasons: a parameter that
cannot be read, a configuration that is not valid, a malformed correlation pattern, an unusable file
of directory properties, or one name for the queue and the connection factory. The first of them in
this order is reported. Otherwise the router becomes ready, for the broker in memory is willing.
-/

namespace Sluice

namespace Demo

variable {env : Environment} {name : String}

/-! ### Parameters -/

theorem parameterName?_eq_some_iff {variableName : String} :
    parameterName? variableName = some name ↔ variableName = parameterPrefix ++ name := by
  unfold parameterName?
  constructor
  · intro h
    split at h
    next hbegins =>
      obtain ⟨rest, hrest⟩ := List.isPrefixOf_iff_prefix.mp hbegins
      have hname : String.ofList rest = name := by
        rw [← Option.some.inj h, ← hrest, ← String.length_toList, List.drop_left]
      rw [← String.toList_inj, String.toList_append, ← hname, String.toList_ofList, hrest]
    next => cases h
  · rintro rfl
    have hbegins : parameterPrefix.toList.isPrefixOf (parameterPrefix ++ name).toList = true := by
      rw [List.isPrefixOf_iff_prefix, String.toList_append]
      exact List.prefix_append _ _
    rw [if_pos hbegins, String.toList_append, ← String.length_toList, List.drop_left,
      String.ofList_toList]

/-- What is said for a parameter: its variable, or else what is built in. -/
def said (env : Environment) (name : String) : Option String :=
  (env.get? (parameterPrefix ++ name)).or (builtIn.get? name)

theorem get?_parameters (env : Environment) (name : String) :
    (parameters env).get? name = said env name := by
  rw [parameters, Keyed.get?_insertAll_or, said]
  congr 1
  apply Keyed.get?_ofList_of_mem_iff
  intro name value
  rw [← Keyed.mem_entries_iff]
  simp [parameterName?_eq_some_iff]

theorem accepts_builtIn : ∀ param ∈ builtIn.entries, Config.Accepts param := by
  have hread : (Config.ofParams builtIn.entries).isOk = true := by decide
  cases hconfig : Config.ofParams builtIn.entries with
  | error e =>
      rw [hconfig] at hread
      cases hread
  | ok config => exact (Config.ofParams_eq_ok_iff.mp hconfig).1

/-- A parameter of the environment cannot be read, and it is the first one in the order of names of
which that is true. -/
structure Misread (env : Environment) (name value : String) (fault : ValueFault) : Prop where
  said : ∃ text, env.get? (parameterPrefix ++ name) = some text ∧ value = Text.trim text
  refuses : Config.Refuses value name fault
  first : ∀ other < name, ∀ text, env.get? (parameterPrefix ++ other) = some text →
    Config.Accepts (other, text)

/-- A configuration has every parameter as it is said, and otherwise what holds by default. -/
structure Configures (env : Environment) (config : Config) : Prop where
  accepts : ∀ name text, said env name = some text → Config.Accepts (name, text)
  amends : Config.Amends {} (fun name => (said env name).map Text.trim) config

theorem configures_iff {config : Config} :
    Config.ofParams (parameters env).entries = .ok config ↔ Configures env config := by
  have hsaid : Config.lastText? (parameters env).entries =
      fun name => (said env name).map Text.trim := by
    funext name
    rw [Config.lastText?_entries, get?_parameters]
  rw [Config.ofParams_eq_ok_iff, hsaid]
  simp only [Prod.forall, Keyed.mem_entries_iff, get?_parameters]
  exact ⟨fun h => ⟨h.1, h.2⟩, fun h => ⟨h.accepts, h.amends⟩⟩

theorem firstRefused_iff {value : String} {fault : ValueFault} :
    Config.FirstRefused (parameters env).entries name value fault ↔
      Misread env name value fault := by
  have hof : ∀ {name text}, env.get? (parameterPrefix ++ name) = some text →
      said env name = some text := by
    intro name text h
    rw [said, h, Option.some_or]
  -- what is built in is never the reason
  have hbuiltIn : ∀ {name text}, said env name = some text →
      env.get? (parameterPrefix ++ name) = some text ∨ Config.Accepts (name, text) := by
    intro name text h
    refine (Option.or_eq_some_iff.mp h).imp_right fun h => ?_
    exact accepts_builtIn _ (Keyed.mem_entries_iff.mpr h.2)
  rw [Config.firstRefused_entries_iff]
  simp only [get?_parameters]
  constructor
  · rintro ⟨⟨text, hsaid, rfl⟩, hrefuses, hfirst⟩
    have henv := (hbuiltIn hsaid).resolve_right fun haccepts => haccepts fault hrefuses
    exact ⟨⟨text, henv, rfl⟩, hrefuses, fun other hlt text' h => hfirst other hlt text' (hof h)⟩
  · rintro ⟨⟨text, henv, rfl⟩, hrefuses, hfirst⟩
    refine ⟨⟨text, hof henv, rfl⟩, hrefuses, fun other hlt text' hsaid => ?_⟩
    exact (hbuiltIn hsaid).elim (hfirst other hlt text') id

/-! ### Configurations -/

variable {config : Config} {files : Files} {r : Router}

/-- The correlation pattern is malformed. -/
def PatternFails (config : Config) (cause : TemplateError) : Prop :=
  ∃ pattern, config.correlationPattern = some pattern ∧ Template.parse pattern = .error cause

/-- A file of directory properties is named that cannot be read or parsed. -/
def FileFails (config : Config) (files : Files) (cause : NamingError) : Prop :=
  ∃ path, config.directory.propertiesFile = some path ∧
    Directory.readFile files path = .error cause

/-- The queue takes the name of the connection factory. -/
def HidesFactory (config : Config) : Prop :=
  config.destinationName = some config.connection.factoryName

instance (config : Config) : Decidable (HidesFactory config) := inferInstanceAs (Decidable (_ = _))

theorem assigner_eq_error_iff {cause : TemplateError} :
    Assigner.new config.correlationPattern = .error cause ↔ PatternFails config cause := by
  unfold Assigner.new Assigner.withRenderer PatternFails
  cases config.correlationPattern with
  | none => simp
  | some pattern =>
      cases hparse : Template.parse pattern <;> simp [Renderer.placeholder, hparse, Except.map]

theorem toProperties_eq_error_iff (defaults : Properties) {cause : NamingError} :
    config.directory.toProperties files defaults = .error cause ↔ FileFails config files cause := by
  unfold Directory.Settings.toProperties Directory.Settings.ofFile FileFails
  cases config.directory.propertiesFile with
  | none => simp
  | some path => cases hread : Directory.readFile files path <;> simp [hread]

/-- Nothing is wrong with a configuration itself. -/
structure Sound (config : Config) : Prop where
  valid : config.validate = .ok ()
  pattern : ∀ cause, ¬ PatternFails config cause

theorem Sound.destinationName (hsound : Sound config) :
    ∃ name, config.destinationName = some name := by
  have hvalid := hsound.valid
  unfold Config.validate at hvalid
  split at hvalid
  next => cases hvalid
  next =>
    split at hvalid
    next => cases hvalid
    next hname =>
      cases hdestination : config.destinationName with
      | none => simp [Config.isBlankSetting, hdestination] at hname
      | some name => exact ⟨name, rfl⟩

/-- A router of a sound configuration can be made. -/
theorem Sound.new (hsound : Sound config) :
    ∃ r, Router.new config = .ok r ∧ r.config = config ∧ r.destinationName = queueName config := by
  obtain ⟨name, hname⟩ := hsound.destinationName
  unfold Router.new queueName
  rw [hsound.valid, hname]
  cases hassigner : Assigner.new config.correlationPattern with
  | error cause => exact absurd (assigner_eq_error_iff.mp hassigner) (hsound.pattern cause)
  | ok assigner => exact ⟨_, rfl, rfl, rfl⟩

/-! ### The start of the router -/

/-- Before the router is started there are no tasks. -/
def stage (config : Config) : Schedule (Except RouterError Unit) := { world := world config }

/-- The start of a router in memory, with the schedule that it leaves. -/
def opening (r : Router) (files : Files) :
    Option (Except RouterError Unit) × Schedule (Except RouterError Unit) :=
  (stage r.config).perform patience 0 (r.start files Keyed.empty) none

theorem startInMemory_eq (r : Router) (files : Files) :
    startInMemory r files = (opening r files).1 := rfl

/-- What the acquisition of resources can come to. -/
inductive Acquired (config : Config) (files : Files) : Except ConfigurationError Resources → Prop
  | unreadable {cause : NamingError} (hfile : FileFails config files cause) :
      Acquired config files (.error (.directory cause))
  | hidden (hfile : ∀ cause, ¬ FileFails config files cause) (hname : HidesFactory config) :
      Acquired config files
        (.error (.wrongEntryKind config.connection.factoryName .connectionFactory .destination))
  | held {held : Resources} (hfile : ∀ cause, ¬ FileFails config files cause)
      (hname : ¬ HidesFactory config)
      (hdestination : held.destination = .queue (queueName config)) :
      Acquired config files (.ok held)

theorem resolve_queue (config : Config) :
    (world config).bindings.resolve (queueName config) =
      .ok (.destination (.queue (queueName config))) := by
  simp [world, Bindings.resolve]

theorem resolve_factory (hname : queueName config ≠ config.connection.factoryName) :
    (world config).bindings.resolve config.connection.factoryName = .ok .connectionFactory := by
  simp [world, Bindings.resolve, hname]

theorem willing_world (config : Config) : (world config).broker.Willing := by
  unfold world Broker.declare
  exact ⟨rfl, rfl⟩

theorem attains_acquire {α : Type} {task place : Nat} {s : Schedule α}
    (hname : config.destinationName = some name)
    (hbroker : s.world.broker = (world config).broker)
    (hbindings : s.world.bindings = (world config).bindings) :
    Schedule.Attains task place
      (fun outcome s' => Acquired config files outcome ∧
        s'.world.stations.length = s.world.stations.length)
      (Manager.acquire config files Keyed.empty) s := by
  have hqueue : queueName config = name := by rw [queueName, hname, Option.getD_some]
  have hdestination : s.world.bindings.resolve name = .ok (.destination (.queue name)) := by
    rw [hbindings, ← hqueue]
    exact resolve_queue config
  cases hproperties : config.directory.toProperties files Keyed.empty with
  | error cause =>
      refine Manager.attains_acquire_unreadable hname hproperties ⟨.unreadable ?_, rfl⟩
      exact (toProperties_eq_error_iff _).mp hproperties
  | ok properties =>
      have hfile : ∀ cause, ¬ FileFails config files cause := by
        intro cause hfails
        have herror := (toProperties_eq_error_iff Keyed.empty).mpr hfails
        rw [hproperties] at herror
        cases herror
      by_cases hsame : name = config.connection.factoryName
      · refine Manager.attains_acquire_hidden hname hproperties hdestination
          (hsame ▸ hdestination) ?_
        exact ⟨.hidden hfile (hname.trans (congrArg some hsame)), rfl⟩
      · have hfactory :
            s.world.bindings.resolve config.connection.factoryName = .ok .connectionFactory := by
          rw [hbindings]
          exact resolve_factory (hqueue ▸ hsame)
        have hshown : ¬ HidesFactory config := by
          intro hhides
          exact hsame (Option.some.inj (hname.symm.trans hhides))
        refine Manager.attains_acquire hname hproperties hdestination
          (hbroker ▸ willing_world config) hfactory fun held b hheld _ => ⟨?_, rfl⟩
        exact .held hfile hshown (hqueue ▸ hheld)

theorem opening_settles (files : Files) (hname : r.config.destinationName = some name) :
    ∃ outcome, Acquired r.config files outcome ∧
      (opening r files).1 =
        some ((outcome.map fun _ => ()).mapError RouterError.configuration) ∧
      ((opening r files).2.world.station 0).manager = Manager.settled outcome := by
  have hpatience : 0 < patience := Nat.pow_pos (by decide)
  have hattains : Schedule.Attains (stage r.config).tasks.length 0 _ (r.start files Keyed.empty)
      ((stage r.config).withForeground 0 (r.start files Keyed.empty)) :=
    Router.attains_start Nat.one_pos rfl fun s' hbroker hbindings =>
      attains_acquire hname hbroker hbindings
  obtain ⟨x, s', ⟨outcome, houtcome, rfl, hmanager⟩, hresult, hworld⟩ :=
    Schedule.perform_of_attains hpatience hattains
  refine ⟨outcome, houtcome, hresult, ?_⟩
  rw [opening, hworld]
  exact hmanager

/-! ### Endings -/

/-- How the demo ends in an environment in which no foreign broker is named. -/
inductive Ends (env : Environment) (files : Files) : Ending → Prop
  | misread {name value : String} {fault : ValueFault} (hparam : Misread env name value fault) :
      Ends env files (.misconfigured (.invalidValue name value fault))
  | invalid {config : Config} {e : ConfigurationError} (hconfig : Configures env config)
      (hinvalid : config.validate = .error e) : Ends env files (.misconfigured e)
  | malformed {config : Config} {cause : TemplateError} (hconfig : Configures env config)
      (hvalid : config.validate = .ok ()) (hpattern : PatternFails config cause) :
      Ends env files (.misconfigured (.template cause))
  | unreadable {config : Config} {cause : NamingError} (hconfig : Configures env config)
      (hsound : Sound config) (hfile : FileFails config files cause) :
      Ends env files (.notStarted (.configuration (.directory cause)))
  | hidden {config : Config} (hconfig : Configures env config) (hsound : Sound config)
      (hfile : ∀ cause, ¬ FileFails config files cause) (hname : HidesFactory config) :
      Ends env files (.notStarted (.configuration
        (.wrongEntryKind config.connection.factoryName .connectionFactory .destination)))
  | ready {config : Config} {r : Router} (hconfig : Configures env config) (hsound : Sound config)
      (hfile : ∀ cause, ¬ FileFails config files cause) (hname : ¬ HidesFactory config)
      (hrouter : Router.new config = .ok r) : Ends env files (.publishing r)

/-- The reasons for which the demo ends at once. -/
def Fails (env : Environment) (files : Files) : Prop :=
  (∃ name value fault, Misread env name value fault) ∨
    ∃ config, Configures env config ∧
      ((∃ e, config.validate = .error e) ∨ (∃ cause, PatternFails config cause) ∨
        (∃ cause, FileFails config files cause) ∨ HidesFactory config)

theorem start_of_misread {value : String} {fault : ValueFault}
    (hparam : Misread env name value fault) :
    start env files = .misconfigured (.invalidValue name value fault) := by
  rw [start, Config.ofParams_eq_error_iff.mpr ⟨_, _, _, firstRefused_iff.mpr hparam, rfl⟩]

theorem start_of_unsound {e : ConfigurationError} (hconfig : Configures env config)
    (hrouter : Router.new config = .error e) : start env files = .misconfigured e := by
  rw [start, configures_iff.mpr hconfig]
  simp only [hrouter]

theorem new_of_invalid {e : ConfigurationError} (hinvalid : config.validate = .error e) :
    Router.new config = .error e := by
  rw [Router.new, hinvalid]

theorem new_of_malformed {cause : TemplateError} (hvalid : config.validate = .ok ())
    (hpattern : PatternFails config cause) : Router.new config = .error (.template cause) := by
  rw [Router.new, hvalid]
  simp only [assigner_eq_error_iff.mpr hpattern]

/-- A sound configuration leaves it to the acquisition of resources how the demo ends. -/
theorem start_of_sound (files : Files) (hbroker : env.get? brokerVariable = none)
    (hconfig : Configures env config) (hsound : Sound config) :
    ∃ r outcome, Router.new config = .ok r ∧ r.destinationName = queueName config ∧
      Acquired config files outcome ∧
      (opening r files).1 =
        some ((outcome.map fun _ => ()).mapError RouterError.configuration) ∧
      ((opening r files).2.world.station 0).manager = Manager.settled outcome ∧
      start env files = match outcome with
        | .error e => .notStarted (.configuration e)
        | .ok _ => .publishing r := by
  obtain ⟨r, hrouter, rfl, hqueue⟩ := hsound.new
  obtain ⟨name, hname⟩ := hsound.destinationName
  obtain ⟨outcome, houtcome, hresult, hmanager⟩ := opening_settles files hname
  refine ⟨r, outcome, hrouter, hqueue, houtcome, hresult, hmanager, ?_⟩
  rw [start, configures_iff.mpr hconfig]
  simp only [hrouter, hbroker, startInMemory_eq, hresult]
  cases outcome <;> rfl

theorem Configures.unique {config' : Config} (h : Configures env config)
    (h' : Configures env config') : config = config' :=
  Except.ok.inj ((configures_iff.mpr h).symm.trans (configures_iff.mpr h'))

theorem FileFails.unique {cause cause' : NamingError} (h : FileFails config files cause)
    (h' : FileFails config files cause') : cause = cause' := by
  obtain ⟨path, hpath, hread⟩ := h
  obtain ⟨path', hpath', hread'⟩ := h'
  obtain rfl := Option.some.inj (hpath.symm.trans hpath')
  exact Except.error.inj (hread.symm.trans hread')

/-- Whatever the environment says, one of the endings is due. -/
theorem exists_ends (env : Environment) (files : Files) : ∃ ending, Ends env files ending := by
  cases hparams : Config.ofParams (parameters env).entries with
  | error e =>
      obtain ⟨name, value, fault, hfirst, -⟩ := Config.ofParams_eq_error_iff.mp hparams
      exact ⟨_, .misread (firstRefused_iff.mp hfirst)⟩
  | ok config =>
      have hconfig := configures_iff.mp hparams
      cases hvalid : config.validate with
      | error e => exact ⟨_, .invalid hconfig hvalid⟩
      | ok _ =>
          by_cases hpattern : ∃ cause, PatternFails config cause
          · obtain ⟨cause, hpattern⟩ := hpattern
            exact ⟨_, .malformed hconfig hvalid hpattern⟩
          · have hsound : Sound config := ⟨hvalid, not_exists.mp hpattern⟩
            by_cases hfile : ∃ cause, FileFails config files cause
            · obtain ⟨cause, hfile⟩ := hfile
              exact ⟨_, .unreadable hconfig hsound hfile⟩
            · by_cases hname : HidesFactory config
              · exact ⟨_, .hidden hconfig hsound (not_exists.mp hfile) hname⟩
              · obtain ⟨r, hrouter, -⟩ := hsound.new
                exact ⟨_, .ready hconfig hsound (not_exists.mp hfile) hname hrouter⟩

/-- The ending that is due is the one that comes. -/
theorem start_of_ends (hbroker : env.get? brokerVariable = none) {ending : Ending}
    (h : Ends env files ending) : start env files = ending := by
  cases h with
  | misread hparam => exact start_of_misread hparam
  | invalid hconfig hinvalid => exact start_of_unsound hconfig (new_of_invalid hinvalid)
  | malformed hconfig hvalid hpattern =>
      exact start_of_unsound hconfig (new_of_malformed hvalid hpattern)
  | unreadable hconfig hsound hfile =>
      obtain ⟨r, outcome, -, -, houtcome, -, -, hstart⟩ :=
        start_of_sound files hbroker hconfig hsound
      cases houtcome with
      | unreadable hfile' => rw [hstart, hfile.unique hfile']
      | hidden hnone => exact absurd hfile (hnone _)
      | held hnone => exact absurd hfile (hnone _)
  | hidden hconfig hsound hfile hname =>
      obtain ⟨r, outcome, -, -, houtcome, -, -, hstart⟩ :=
        start_of_sound files hbroker hconfig hsound
      cases houtcome with
      | unreadable hfile' => exact absurd hfile' (hfile _)
      | hidden => exact hstart
      | held _ hshown => exact absurd hname hshown
  | ready hconfig hsound hfile hname hrouter =>
      obtain ⟨r, outcome, hrouter', -, houtcome, -, -, hstart⟩ :=
        start_of_sound files hbroker hconfig hsound
      obtain rfl := Except.ok.inj (hrouter.symm.trans hrouter')
      cases houtcome with
      | unreadable hfile' => exact absurd hfile' (hfile _)
      | hidden _ hhides => exact absurd hhides hname
      | held => exact hstart

/-- The demo fails by every ending but the one in which the router is ready. -/
theorem Ends.exitCode_eq_one_iff {ending : Ending} (h : Ends env files ending) :
    ending.exitCode = 1 ↔ Fails env files := by
  cases h with
  | misread hparam => exact iff_of_true rfl (.inl ⟨_, _, _, hparam⟩)
  | invalid hconfig hinvalid => exact iff_of_true rfl (.inr ⟨_, hconfig, .inl ⟨_, hinvalid⟩⟩)
  | malformed hconfig _ hpattern =>
      exact iff_of_true rfl (.inr ⟨_, hconfig, .inr (.inl ⟨_, hpattern⟩)⟩)
  | unreadable hconfig _ hfile =>
      exact iff_of_true rfl (.inr ⟨_, hconfig, .inr (.inr (.inl ⟨_, hfile⟩))⟩)
  | hidden hconfig _ _ hname =>
      exact iff_of_true rfl (.inr ⟨_, hconfig, .inr (.inr (.inr hname))⟩)
  | ready hconfig hsound hfile hname =>
      refine iff_of_false Nat.zero_ne_one ?_
      rintro (⟨name, value, fault, hparam⟩ | ⟨config, hconfig', hfails⟩)
      · obtain ⟨text, htext, rfl⟩ := hparam.said
        have hsaid : said env name = some text := by rw [said, htext, Option.some_or]
        exact hconfig.accepts name text hsaid fault hparam.refuses
      · obtain rfl := hconfig.unique hconfig'
        rcases hfails with ⟨e, hinvalid⟩ | ⟨cause, hpattern⟩ | ⟨cause, hfails⟩ | hhides
        · rw [hsound.valid] at hinvalid
          cases hinvalid
        · exact hsound.pattern cause hpattern
        · exact hfile cause hfails
        · exact hname hhides

/-- Without a reason to fail, the router is ready when its start is over. -/
theorem ready_of_not_fails (hbroker : env.get? brokerVariable = none) (hfine : ¬ Fails env files) :
    ∃ r held, start env files = .publishing r ∧ (opening r files).1 = some (.ok ()) ∧
      ((opening r files).2.world.station 0).manager = { state := .ready, held := some held } ∧
      held.destination = .queue r.destinationName := by
  obtain ⟨due, hdue⟩ := exists_ends env files
  have hcode : due.exitCode ≠ 1 := fun h => hfine (hdue.exitCode_eq_one_iff.mp h)
  cases hdue with
  | misread | invalid | malformed | unreadable | hidden => exact absurd rfl hcode
  | ready hconfig hsound hfile hname hrouter =>
      obtain ⟨r, outcome, -, hqueue, houtcome, hresult, hmanager, hstart⟩ :=
        start_of_sound files hbroker hconfig hsound
      cases houtcome with
      | unreadable hfile' => exact absurd hfile' (hfile _)
      | hidden _ hhides => exact absurd hhides hname
      | held _ _ hdestination =>
          exact ⟨r, _, hstart, hresult, hmanager, hqueue ▸ hdestination⟩

/-- In an environment that names no foreign broker, the demo ends as is due: for the first of five
reasons if there is one, and otherwise with a router that is ready to publish to the queue. -/
theorem start_exact (files : Files) (hbroker : env.get? brokerVariable = none) :
    (∀ ending, start env files = ending ↔ Ends env files ending) ∧
      ((start env files).exitCode = 1 ↔ Fails env files) ∧
      (¬ Fails env files → ∃ r held, start env files = .publishing r ∧
        (opening r files).1 = some (.ok ()) ∧
        ((opening r files).2.world.station 0).manager = { state := .ready, held := some held } ∧
        held.destination = .queue r.destinationName) := by
  obtain ⟨due, hdue⟩ := exists_ends env files
  have hstart : start env files = due := start_of_ends hbroker hdue
  refine ⟨fun ending => ⟨fun h => ?_, start_of_ends hbroker⟩, ?_, ready_of_not_fails hbroker⟩
  · rw [← h, hstart]
    exact hdue
  · rw [hstart]
    exact hdue.exitCode_eq_one_iff

/-- An empty environment, and one in which the factory takes the name of the queue. Of two
parameters that cannot be read, the one is reported whose name comes first. -/
theorem start_exact_overlaid :
    let files : Files := fun _ => .error .missing
    let named : Environment := Keyed.ofList [("BEAN_ROUTER_connectionFactory", " orders ")]
    let faulty : Environment := Keyed.ofList
      [("BEAN_ROUTER_priority", "high"), ("BEAN_ROUTER_highWaterMark", "many"), ("LANG", "C")]
    (∃ r, start Keyed.empty files = .publishing r) ∧
      start named files = .notStarted (.configuration
        (.wrongEntryKind "orders" .connectionFactory .destination)) ∧
      start faulty files = .misconfigured
        (.invalidValue "highWaterMark" "many" (.numeral .invalidDigit)) := by
  intro files named faulty
  let config (factoryName : String) : Config :=
    { valueKey := some "order", destinationName := some "orders", messageType := .map
      connection := { factoryName }, correlationPattern := some "order-$\x7border.id\x7d"
      admission := { highWaterMark := 5, timeout := 10000, pollInterval := 100 } }
  have hpattern : ∀ factoryName cause, ¬ PatternFails (config factoryName) cause := by
    rintro _ cause ⟨pattern, hpattern, hparse⟩
    obtain rfl := Option.some.inj hpattern
    have hok : (Template.parse "order-$\x7border.id\x7d").isOk = true := by decide
    rw [hparse] at hok
    cases hok
  have hfile : ∀ factoryName cause, ¬ FileFails (config factoryName) files cause := by
    rintro _ _ ⟨path, hpath, -⟩
    cases hpath
  refine ⟨?_, ?_, ?_⟩
  · have hconfig : Configures Keyed.empty (config "ConnectionFactory") :=
      configures_iff.mp (by decide)
    have hsound : Sound (config "ConnectionFactory") := ⟨by decide, hpattern _⟩
    obtain ⟨r, hrouter, -⟩ := hsound.new
    refine ⟨r, ((start_exact files rfl).1 _).mpr ?_⟩
    exact .ready hconfig hsound (hfile _) (by decide) hrouter
  · have hconfig : Configures named (config "orders") := configures_iff.mp (by decide)
    refine ((start_exact files (by decide)).1 _).mpr ?_
    exact .hidden hconfig ⟨by decide, hpattern _⟩ (hfile _) rfl
  · refine ((start_exact files (by decide)).1 _).mpr (.misread (firstRefused_iff.mp ?_))
    refine ⟨builtIn.entries.take 3, "many",
      [("highWaterMarkPollFrequency", "100"), ("highWaterMarkTimeout", "10000"),
        ("messageType", "map"), ("priority", "high")], by decide, by decide,
      .highWaterMark (by decide), fun param hmem => ?_⟩
    exact accepts_builtIn param (List.mem_of_mem_take hmem)

end Demo

end Sluice
