import Criteria.Settings.Basic
import Criteria.Toml.Read
import Criteria.Yaml.Read

/-!
# Settings from files

Settings are read from a file, over which the files of the active profiles are laid in order; all of them
lie over the library's own settings. A profile's file has the profile's name in front of the suffix. Files
that do not exist count as empty, and without the first file no profile is looked at.
-/

namespace Criteria

/-- The files that can be read: their names and texts. -/
abbrev Files := List (String × String)

structure SettingsSource where
  files : Files
  /-- The name of the first file. -/
  path : String
  /-- The names of the active profiles, in order. -/
  profiles : List String := []
  /-- Whether the library's own settings lie below. -/
  withDefaults : Bool := true

namespace SettingsSource

/-! ## Names -/

/-- A file name split in front of its last dot. A dot at either end does not count. -/
def splitSuffix (name : String) : String × String :=
  let reversed := name.toList.reverse
  let suffix := reversed.takeWhile (· ≠ '.')
  match suffix, reversed.dropWhile (· ≠ '.') with
  | _ :: _, dot :: stem =>
    if stem.isEmpty then (name, "")
    else (String.ofList stem.reverse, String.ofList (suffix ++ [dot]).reverse)
  | _, _ => (name, "")

/-- The file name of a profile. -/
def profileName (name profile : String) : String :=
  let (stem, suffix) := splitSuffix name
  stem ++ "-" ++ profile ++ suffix

/-- A name that leads to another folder is none of a profile. -/
def profilePath (name profile : String) : Except Fault String :=
  let full := profileName name profile
  if full.toList.contains '/' then .error (.invalidFileName full) else .ok full

/-! ## Texts -/

/-- The suffix of tables; all other files are documents. -/
def tableSuffix : String := ".toml"

def readText (name text : String) : Except Fault Entries :=
  if (splitSuffix name).2 = tableSuffix then
    match Toml.read? text with
    | some es => .ok es
    | none => .error .tables
  else do
    match ← Yaml.read? text with
    | .map es => return es
    | v => if v.truthy then throw (.rootNotMapping v.className) else return []

/-- The library's own settings. -/
def defaults : Entries :=
  let entry (name : String) (v : Value) : Value × Value := (.str name, v)
  [entry "flyspec" (.map
    [entry "logging" (.map
        [entry "format" (.str "console"), entry "level" (.map [entry "root" (.str "INFO")])]),
      entry "specification" (.map
        [entry "default_alias" (.str "e"), entry "log_queries" (.bool false)])])]

/-- The layers of settings, from the lowest to the highest. -/
def layers (src : SettingsSource) : Except Fault (List Entries) := do
  let names ← src.profiles.mapM (profilePath src.path)
  let own := if src.withDefaults then [defaults] else []
  if (src.files.lookup src.path).isNone then return own
  let read ← (src.path :: names).mapM fun name =>
    match src.files.lookup name with
    | some text => readText name text
    | none => .ok []
  return own ++ read

def settings (src : SettingsSource) (environment : Environment) : Except Fault Settings := do
  return { entries := Entries.stack (← src.layers), environment := environment }

end SettingsSource
end Criteria
