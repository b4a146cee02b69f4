import Criteria.Proofs.Settings.Documents
import Criteria.Proofs.Settings.Layers
import Criteria.Proofs.Settings.Tables
import Criteria.Settings.Files

/-!
# Looking up settings

What settings answer to a key is decided by a scan of their layers: the library's own settings, the first file
and the files of the profiles that exist, from the last to the first (`settings_answer`). A variable of the
environment that is named after the key goes before all of them.
-/

namespace Criteria

open Entries (scan)

/-! ## Layers from files -/

namespace SettingsSource

theorem wellKeyed_defaults : (Value.map defaults).WellKeyed := by
  simp [defaults, Value.wellKeyed_map, Entries.names]

/-- The entries of a text are well keyed, whatever the kind of file. -/
theorem wellKeyed_of_readText {name text : String} {es : Entries} (h : readText name text = .ok es) :
    (Value.map es).WellKeyed := by
  unfold readText at h
  split at h
  · split at h
    · rename_i hread
      cases h
      exact Toml.wellKeyed_of_read? hread
    · cases h
  · obtain ⟨v, hread, h⟩ := bind_eq_ok.mp h
    split at h
    · cases h
      exact Yaml.wellKeyed_of_read? hread
    · split at h
      · cases h
      · cases h
        exact Value.wellKeyed_empty

/-- The library's own layer, if it counts. -/
def ownLayers (src : SettingsSource) : List Entries := if src.withDefaults then [defaults] else []

/-- The files that settings are looked for in, none without the first. -/
def fileNames (src : SettingsSource) : List String :=
  if (src.files.lookup src.path).isSome then src.path :: src.profiles.map (profileName src.path) else []

/-- Those of some files that exist, with their texts. -/
def existing (files : Files) (names : List String) : List (String × String) :=
  names.filterMap fun name => (files.lookup name).map fun text => (name, text)

/-- The layers of settings: the library's own, if it counts, and those of the files that exist. -/
def existingLayers (src : SettingsSource) : Except Fault (List Entries) :=
  ((existing src.files src.fileNames).mapM fun file => readText file.1 file.2).map (src.ownLayers ++ ·)

theorem wellKeyed_existingLayers {src : SettingsSource} {layers : List Entries}
    (h : src.existingLayers = .ok layers) : ∀ es ∈ layers, (Value.map es).WellKeyed := by
  obtain ⟨read, hread, rfl⟩ := map_eq_ok.mp h
  intro es hes
  rcases List.mem_append.mp hes with hes | hes
  · unfold ownLayers at hes
    split at hes
    · rw [List.mem_singleton.mp hes]
      exact wellKeyed_defaults
    · cases hes
  · obtain ⟨file, -, hfile⟩ := mem_of_mapM_eq_ok hread hes
    exact wellKeyed_of_readText hfile

/-- The entries of a file; one that does not exist has none. -/
def readFile (files : Files) (name : String) : Except Fault Entries :=
  match files.lookup name with
  | some text => readText name text
  | none => .ok []

/-- Files that do not exist leave what lies below as it is. -/
theorem mapM_readFile (files : Files) (names : List String) (base : Entries) :
    (names.mapM (readFile files)).map (List.foldl Entries.overlay base) =
      ((existing files names).mapM fun file => readText file.1 file.2).map
        (List.foldl Entries.overlay base) := by
  -- the first layer goes over the base before the others are laid over both
  have hfirst (es : Entries) (base : Entries) (others : Except Fault (List Entries)) :
      (do .ok (es :: (← others)) : Except Fault (List Entries)).map (List.foldl Entries.overlay base) =
        others.map (List.foldl Entries.overlay (base.overlay es)) := by
    cases others <;> rfl
  induction names generalizing base with
  | nil => rfl
  | cons name rest ih =>
      rw [List.mapM_cons, existing, List.filterMap_cons, readFile]
      cases files.lookup name with
      | none => exact (hfirst [] base _).trans (ih base)
      | some text =>
          simp only [Option.map_some, List.mapM_cons]
          cases readText name text with
          | error f => rfl
          | ok es => exact (hfirst es base _).trans ((ih (base.overlay es)).trans (hfirst es base _).symm)

theorem layers_eq {src : SettingsSource}
    (hnames : ∀ profile ∈ src.profiles, '/' ∉ (profileName src.path profile).toList) :
    src.layers = (src.fileNames.mapM (readFile src.files)).map (src.ownLayers ++ ·) := by
  have hprofiles : src.profiles.mapM (profilePath src.path) =
      .ok (src.profiles.map (profileName src.path)) := by
    apply mapM_eq_map
    intro profile hprofile
    simp [profilePath, hnames profile hprofile]
  rw [layers, hprofiles, fileNames]
  cases src.files.lookup src.path with
  | none => simp [ownLayers, Except.map, bind, Except.bind, pure, Except.pure]
  | some text => rfl

/-- Settings are made of the layers that exist, laid over each other. -/
theorem settings_eq {src : SettingsSource} (environment : Environment)
    (hnames : ∀ profile ∈ src.profiles, '/' ∉ (profileName src.path profile).toList) :
    src.settings environment =
      src.existingLayers.map fun layers => ⟨Entries.stack layers, environment⟩ := by
  have hstack (read : Except Fault (List Entries)) :
      (read.map (src.ownLayers ++ ·)).map (fun layers => Settings.mk (Entries.stack layers) environment) =
        (read.map (List.foldl Entries.overlay (Entries.stack src.ownLayers))).map
          fun es => ⟨es, environment⟩ := by
    cases read with
    | error f => rfl
    | ok layers => simp [Except.map, Entries.stack]
  have hsettings : src.settings environment =
      src.layers.map fun layers => ⟨Entries.stack layers, environment⟩ := by
    unfold settings
    cases src.layers <;> rfl
  rw [hsettings, layers_eq hnames, hstack, mapM_readFile, existingLayers, hstack]

end SettingsSource

/-! ## Answers -/

namespace Settings

/-- The parts of a key that is made of parts without dots are those. -/
theorem keyParts_intercalate {path : List String} (hne : path ≠ [])
    (hdots : ∀ part ∈ path, '.' ∉ part.toList) : keyParts (".".intercalate path) = path := by
  have hparts : ∀ part ∈ path.map String.toList, '.' ∉ part := by simpa using hdots
  have htext : (".".intercalate path).toList = Text.joinWith '.' (path.map String.toList) := by
    rw [String.toList_intercalate]
    exact Text.intercalate_eq_joinWith '.' _
  rw [keyParts, htext, Text.splitAt_joinWith (by simpa using hne) hparts]
  simp [Function.comp_def]

theorem follow_eq (v : Value) (path : List String) : follow v path = (v.at? path).getD .null := by
  induction path generalizing v with
  | nil => simp [follow, Value.at?]
  | cons part rest ih =>
      cases v with
      | map es =>
          simp only [follow, Value.at?, ih]
          cases Value.lookupKey es part with
          | none => cases rest <;> simp [Value.at?]
          | some w => rfl
      | _ => simp [follow, Value.at?]

/-- What is in force for a key at which `stored` was found: a text has its placeholders replaced, and the
default stands for nothing and for null. -/
def answer (s : Settings) (default : Value) (stored : Option Value) : Except Fault Value :=
  match stored with
  | none | some .null => .ok default
  | some (.str text) => (s.expand text).map .str
  | some v => .ok v

/-- A number is in force as it is. -/
theorem answer_of_wholeNumber {s : Settings} {default v : Value} {n : Int} (h : v.wholeNumber? = some n) :
    s.answer default (some v) = .ok v := by
  cases v with
  | bool b | int n => rfl
  | _ => cases h

/-- Settings answer a path as a scan of layers says. -/
structure AnswersAs (s : Settings) (layers : List Entries) (path : List String) : Prop where
  /-- The variable named after the key goes first. -/
  overridden : ∀ v default, s.environment.lookup (variableName (".".intercalate path)) = some v →
    s.get (".".intercalate path) default = .ok (.str v)
  /-- Without it, the scan from the last layer to the first decides. -/
  stored : s.environment.lookup (variableName (".".intercalate path)) = none →
    ∀ default, s.get (".".intercalate path) default = s.answer default (scan path layers.reverse)
  /-- A section that is found has below it what the scans of longer paths find. -/
  below : ∀ es, scan path layers.reverse = some (.map es) →
    ∀ more, (Value.map es).at? more = scan (path ++ more) layers.reverse

/-- Stacked layers answer as a scan from the highest to the lowest. -/
theorem answersAs_of_stack {layers : List Entries} (hlayers : ∀ es ∈ layers, (Value.map es).WellKeyed)
    (environment : Environment) {path : List String} (hne : path ≠ [])
    (hdots : ∀ part ∈ path, '.' ∉ part.toList) :
    AnswersAs ⟨Entries.stack layers, environment⟩ layers path where
  overridden v default h := by
    simp only [get, resolve, h]
    rfl
  stored h default := by
    have hlookup : lookup ⟨Entries.stack layers, environment⟩ (".".intercalate path) =
        (scan path layers.reverse).getD .null := by
      rw [lookup, keyParts_intercalate hne hdots, follow_eq, Entries.at?_stack hlayers hne]
    simp only [get, resolve, h, hlookup]
    rcases scan path layers.reverse with _ | v
    · rfl
    · cases v with
      | str text =>
          simp only [Option.getD_some, answer]
          cases expand ⟨Entries.stack layers, environment⟩ text <;> rfl
      | _ => rfl
  below es hes more := Entries.at?_of_scan hlayers hne hes more

/-- **Lookup is exact.** If the names of profiles lead to no other folder and the files that exist can be read,
the settings can be made, and every key of parts without dots has the variable named after it or else what a scan
of the layers from the last to the first says. -/
theorem settings_answer (src : SettingsSource) (environment : Environment) {layers : List Entries}
    (hnames : ∀ profile ∈ src.profiles, '/' ∉ (SettingsSource.profileName src.path profile).toList)
    (hread : src.existingLayers = .ok layers) :
    ∃ s, src.settings environment = .ok s ∧ s.environment = environment ∧
      ∀ path, path ≠ [] → (∀ part ∈ path, '.' ∉ part.toList) → s.AnswersAs layers path := by
  refine ⟨⟨Entries.stack layers, environment⟩, ?_, rfl, fun path hne hdots => ?_⟩
  · rw [SettingsSource.settings_eq environment hnames, hread]
    rfl
  · exact answersAs_of_stack (SettingsSource.wellKeyed_existingLayers hread) environment hne hdots

/-- Settings of a service with a file for its development and none for its tests. -/
def sampleSource : SettingsSource where
  files := [("app.toml", "[db]\nport = 1\ntls = true"), ("app-dev.toml", "[db]\nport = 2")]
  path := "app.toml"
  profiles := ["dev", "test"]

/-- The port is the one of the last file that has one; the user is the one of the environment. -/
theorem port_of_profile :
    ∃ s port, sampleSource.settings [("FLYSPEC_DB_USER", "ann")] = .ok s ∧
      s.get "db.port" .null = .ok port ∧ port.wholeNumber? = some 2 ∧
      s.get "db.user" .null = .ok (.str "ann") := by
  have hsample : (sampleSource.existingLayers.toOption.bind fun layers =>
      (scan ["db", "port"] layers.reverse).bind Value.wholeNumber?) = some 2 := by
    decide +kernel
  obtain ⟨layers, hlayers, hport⟩ := Option.bind_eq_some_iff.mp hsample
  obtain ⟨port, hscan, hnumber⟩ := Option.bind_eq_some_iff.mp hport
  have hread : sampleSource.existingLayers = .ok layers := by
    cases hresult : sampleSource.existingLayers with
    | error f => simp [hresult, Except.toOption] at hlayers
    | ok found => simpa [hresult, Except.toOption] using hlayers
  obtain ⟨s, hs, henvironment, hpaths⟩ :=
    settings_answer sampleSource [("FLYSPEC_DB_USER", "ann")] (by decide) hread
  refine ⟨s, port, hs, ?_, hnumber, ?_⟩
  · have hget := (hpaths ["db", "port"] (List.cons_ne_nil _ _) (by decide)).stored
      (by rw [henvironment]; decide +kernel) .null
    rw [hscan, answer_of_wholeNumber hnumber] at hget
    exact hget
  · exact (hpaths ["db", "user"] (List.cons_ne_nil _ _) (by decide)).overridden _ _
      (by rw [henvironment]; decide +kernel)

end Settings
end Criteria
