import Sluice.Directory.Naming
import Sluice.Proofs.Keyed
import Sluice.Proofs.Wire.Forms

/-! # Which properties a directory is reached with

A named setting hides what the properties file says under its key, and the file hides the free
properties. The defaults of the directory are no further layer: they are taken as they are where
nothing is set, and otherwise not at all.
-/

namespace Sluice

namespace Directory

/-! ### What is to be shown -/

/-- The file at a path is a text that says these properties. -/
def Says (files : Files) (path : String) (said : Properties) : Prop :=
  ∃ text, files path = .ok (Bytes.ofString text) ∧ Properties.parse text = .ok said

/-- Why the file at a path cannot be used: it cannot be read, its content is not that of a text, or
the text has a faulty line. -/
inductive Unusable (files : Files) (path : String) : FileFault → Prop
  | unread {fault : FileFault} (hfile : files path = .error fault) : Unusable files path fault
  | notText {data : Bytes} (hfile : files path = .ok data)
      (htext : ∀ text, data ≠ Bytes.ofString text) : Unusable files path .notText
  | faulty {text : String} {number : Nat} {fault : Properties.LineFault}
      (hfile : files path = .ok (Bytes.ofString text))
      (hparse : Properties.parse text = .error (number, fault)) :
      Unusable files path (.line number fault)

namespace Settings

/-- What the properties file of the settings adds, which is nothing if they name none. -/
inductive Adds (s : Settings) (files : Files) : Properties → Prop
  | unnamed (hpath : s.propertiesFile = none) : Adds s files Keyed.empty
  | file {path : String} {said : Properties} (hpath : s.propertiesFile = some path)
      (hsaid : Says files path said) : Adds s files said

/-- The setting that has a key as its name. -/
def setting? (s : Settings) (key : String) : Option String :=
  if key = "naming.factory.initial" then s.contextFactory
  else if key = "naming.provider.url" then s.providerUrl
  else if key = "naming.factory.url.pkgs" then s.urlPackagePrefixes
  else none

/-- What counts under a key: the setting of that name, or else what the file says, or else the free
property. -/
def effective? (s : Settings) (said : Properties) (key : String) : Option String :=
  (s.setting? key).or ((said.get? key).or (s.properties.get? key))

end Settings

variable {s : Settings} {files : Files} {path key : String} {said : Properties} {fault : FileFault}

/-! ### The properties file -/

theorem readFile_of_says (h : Says files path said) : readFile files path = .ok said := by
  obtain ⟨text, hfile, hparse⟩ := h
  simp only [readFile, hfile, Bytes.toString?_ofString, hparse]

theorem readFile_of_unusable (h : Unusable files path fault) :
    readFile files path = .error (.propertiesFile path fault) := by
  cases h with
  | unread hfile => simp only [readFile, hfile]
  | @notText data hfile htext =>
      have hnone : data.toString? = none := by
        rw [Option.eq_none_iff_forall_ne_some]
        exact fun text hsome => htext text (Bytes.toString?_eq_some_iff.mp hsome)
      simp only [readFile, hfile, hnone]
  | faulty hfile hparse => simp only [readFile, hfile, Bytes.toString?_ofString, hparse]

theorem says_or_unusable (files : Files) (path : String) :
    (∃ said, Says files path said) ∨ ∃ fault, Unusable files path fault := by
  cases hfile : files path with
  | error fault => exact .inr ⟨fault, .unread hfile⟩
  | ok data =>
      by_cases htext : ∃ text, data = Bytes.ofString text
      · obtain ⟨text, rfl⟩ := htext
        cases hparse : Properties.parse text with
        | ok said => exact .inl ⟨said, text, hfile, hparse⟩
        | error e => exact .inr ⟨.line e.1 e.2, .faulty hfile hparse⟩
      · exact .inr ⟨.notText, .notText hfile (not_exists.mp htext)⟩

namespace Settings

theorem ofFile_of_adds (h : s.Adds files said) : s.ofFile files = .ok said := by
  cases h with
  | unnamed hpath => simp only [ofFile, hpath]
  | file hpath hsaid => simp only [ofFile, hpath, readFile_of_says hsaid]

theorem ofFile_of_unusable (hpath : s.propertiesFile = some path) (h : Unusable files path fault) :
    s.ofFile files = .error (.propertiesFile path fault) := by
  simp only [ofFile, hpath, readFile_of_unusable h]

theorem adds_or_unusable (s : Settings) (files : Files) :
    (∃ said, s.Adds files said) ∨
      ∃ path fault, s.propertiesFile = some path ∧ Unusable files path fault := by
  cases hpath : s.propertiesFile with
  | none => exact .inl ⟨_, .unnamed hpath⟩
  | some path =>
      rcases says_or_unusable files path with ⟨said, hsaid⟩ | ⟨fault, hunusable⟩
      · exact .inl ⟨said, .file hpath hsaid⟩
      · exact .inr ⟨path, fault, rfl, hunusable⟩

/-! ### The layers -/

theorem get?_named (s : Settings) (key : String) :
    (Keyed.ofList s.named).get? key = s.setting? key := by
  have hrows : (Keyed.ofList s.named).get? key =
      ((if key = urlPackagePrefixesProperty then s.urlPackagePrefixes else none).or
        (if key = providerUrlProperty then s.providerUrl else none)).or
          (if key = contextFactoryProperty then s.contextFactory else none) := by
    rw [named, Keyed.get?_ofList_filterMap_cons, Keyed.get?_ofList_filterMap_cons,
      Keyed.get?_ofList_filterMap_cons, List.filterMap_nil, Keyed.get?_ofList_nil, Option.none_or]
  rw [hrows, setting?]
  unfold urlPackagePrefixesProperty providerUrlProperty contextFactoryProperty
  -- a key is at most one of the names, so it does not matter in which order they are laid down
  by_cases hinitial : key = "naming.factory.initial"
  · simp [hinitial]
  · by_cases hurl : key = "naming.provider.url"
    · simp [hurl]
    · simp [hinitial, hurl]

theorem get?_layers (s : Settings) (said : Properties) (key : String) :
    ((s.properties.overlay said).insertAll s.named).get? key = s.effective? said key := by
  rw [Keyed.get?_insertAll_or, get?_named, Keyed.get?_overlay, effective?]

theorem toProperties_of_adds (h : s.Adds files said) {merged : Properties}
    (hmerged : ∀ key, merged.get? key = s.effective? said key) (defaults : Properties) :
    s.toProperties files defaults = .ok (if merged = Keyed.empty then defaults else merged) := by
  have hlayers : (s.properties.overlay said).insertAll s.named = merged := by
    apply Keyed.ext_get?
    intro key
    rw [get?_layers, hmerged]
  simp only [toProperties, ofFile_of_adds h, hlayers, Keyed.isEmpty_iff]

theorem toProperties_of_unusable (hpath : s.propertiesFile = some path)
    (h : Unusable files path fault) (defaults : Properties) :
    s.toProperties files defaults = .error (.propertiesFile path fault) := by
  simp only [toProperties, ofFile_of_unusable hpath h]

theorem isEmpty_iff : s.isEmpty = true ↔ s = {} := by
  cases s
  simp [isEmpty, Keyed.isEmpty_iff, and_assoc]

theorem effective?_of_isEmpty (h : s.isEmpty = true) (key : String) :
    s.effective? Keyed.empty key = none := by
  obtain rfl := isEmpty_iff.mp h
  simp [effective?, setting?]

theorem toProperties_of_isEmpty (h : s.isEmpty = true) (defaults : Properties) :
    s.toProperties files defaults = .ok defaults := by
  have hpath : s.propertiesFile = none := congrArg propertiesFile (isEmpty_iff.mp h)
  have hnone : ∀ key, (Keyed.empty : Properties).get? key = s.effective? Keyed.empty key :=
    fun key => (effective?_of_isEmpty h key).symm
  rw [toProperties_of_adds (.unnamed hpath) hnone, if_pos rfl]

theorem toProperties_eq_error_iff {defaults : Properties} {e : NamingError} :
    s.toProperties files defaults = .error e ↔ ∃ path fault,
      s.propertiesFile = some path ∧ Unusable files path fault ∧ e = .propertiesFile path fault := by
  constructor
  · intro herror
    rcases adds_or_unusable s files with ⟨said, hadds⟩ | ⟨path, fault, hpath, hunusable⟩
    · rw [toProperties_of_adds hadds (get?_layers s said)] at herror
      cases herror
    · rw [toProperties_of_unusable hpath hunusable] at herror
      exact ⟨path, fault, hpath, hunusable, (Except.error.inj herror).symm⟩
  · rintro ⟨path, fault, hpath, hunusable, rfl⟩
    exact toProperties_of_unusable hpath hunusable defaults

/-- Settings fail if and only if they name a file that cannot be used. Otherwise the properties are
the merged ones whatever the defaults are, except that the defaults stand in for no properties. -/
theorem toProperties_precedence (s : Settings) (files : Files) :
    (∀ defaults e, s.toProperties files defaults = .error e ↔ ∃ path fault,
      s.propertiesFile = some path ∧ Unusable files path fault ∧ e = .propertiesFile path fault) ∧
    ((∃ said, s.Adds files said) ∨
      ∃ path fault, s.propertiesFile = some path ∧ Unusable files path fault) ∧
    (∀ said, s.Adds files said → ∃ merged : Properties,
      (∀ key, merged.get? key = s.effective? said key) ∧
      (merged = Keyed.empty → ∀ defaults, s.toProperties files defaults = .ok defaults) ∧
      (merged ≠ Keyed.empty → ∀ defaults, s.toProperties files defaults = .ok merged)) ∧
    (s.isEmpty = true → ∀ defaults, s.toProperties files defaults = .ok defaults) := by
  refine ⟨fun defaults e => toProperties_eq_error_iff, adds_or_unusable s files,
    fun said hadds => ?_, toProperties_of_isEmpty⟩
  have hlayers := get?_layers s said
  refine ⟨_, hlayers, fun hnone defaults => ?_, fun hsome defaults => ?_⟩
  · rw [toProperties_of_adds hadds hlayers, if_pos hnone]
  · rw [toProperties_of_adds hadds hlayers, if_neg hsome]

/-- A setting that is the empty text hides what the file says, a file of comments leaves room for
the defaults, and a file that is not there does not. -/
theorem toProperties_precedence_layered :
    let files : Files := fun path =>
      if path = "a" then .ok (Bytes.ofString "naming.factory.initial = m\nnaming.provider.url: f")
      else if path = "b" then .ok (Bytes.ofString "# none\n")
      else .error .missing
    let s : Settings :=
      { contextFactory := some "", propertiesFile := some "a",
        properties := ⟨[("naming.provider.url", "free"), ("zone", "z")], by decide⟩ }
    (∃ merged : Properties, (∀ defaults, s.toProperties files defaults = .ok merged) ∧
      merged.get? "naming.factory.initial" = some "" ∧
      merged.get? "naming.provider.url" = some "f" ∧ merged.get? "zone" = some "z") ∧
    (∀ defaults, ({ propertiesFile := some "b" } : Settings).toProperties files defaults =
      .ok defaults) ∧
    (∀ defaults, ({ propertiesFile := some "c" } : Settings).toProperties files defaults =
      .error (.propertiesFile "c" .missing)) ∧
    ∀ defaults, ({} : Settings).toProperties files defaults = .ok defaults := by
  intro files s
  let said : Properties :=
    ⟨[("naming.factory.initial", "m"), ("naming.provider.url", "f")], by decide⟩
  have hsaid : Says files "a" said := ⟨_, rfl, by decide⟩
  have hblank : Says files "b" Keyed.empty := ⟨_, rfl, by decide⟩
  obtain ⟨-, -, hlayers, -⟩ := toProperties_precedence s files
  obtain ⟨merged, hget, -, hmerged⟩ := hlayers said (.file rfl hsaid)
  have hinitial : merged.get? "naming.factory.initial" = some "" := hget _
  have hsome : merged ≠ Keyed.empty := fun hnone => by simp [hnone] at hinitial
  obtain ⟨-, -, hblanks, -⟩ := toProperties_precedence { propertiesFile := some "b" } files
  obtain ⟨nothing, hget', hnothing, -⟩ := hblanks _ (.file rfl hblank)
  have hempty : nothing = Keyed.empty := by
    apply Keyed.ext_get?
    intro key
    simp [hget', effective?, setting?]
  obtain ⟨hmissing, -⟩ := toProperties_precedence { propertiesFile := some "c" } files
  obtain ⟨-, -, -, hdefaults⟩ := toProperties_precedence {} files
  exact ⟨⟨merged, hmerged hsome, hinitial, hget _, hget _⟩, hnothing hempty,
    fun defaults => (hmissing defaults _).mpr ⟨"c", .missing, rfl, .unread rfl, rfl⟩,
    hdefaults rfl⟩

end Settings

end Directory

end Sluice
