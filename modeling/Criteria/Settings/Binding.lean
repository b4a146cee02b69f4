import Criteria.Number.Reading
import Criteria.Settings.Basic

/-!
# Binding settings to classes

A settings class names the section it is filled from and its fields. Texts are read as what a field
holds; values of other kinds are taken as they are.
-/

namespace Criteria

/-- What texts for a field are read as. -/
inductive FieldKind where
  | whole
  | decimal
  | truth
  /-- Texts stay texts. -/
  | any
  deriving DecidableEq, Repr, Inhabited

structure SettingsField where
  name : String
  kind : FieldKind
  /-- The value of a field that is not set; none for a field that has to be set. -/
  default : Option Value
  deriving Inhabited

structure SettingsClass where
  name : String
  /-- The key of the section; none for a class that is not filled from settings. -/
  sectionName : Option String
  fields : List SettingsField
  deriving Inhabited

/-- The words that stand for true, in lower case. -/
def trueWords : List String := ["true", "1", "yes"]

def FieldKind.read (k : FieldKind) (text : String) : Except Fault Value :=
  match k with
  | .whole =>
    match Number.readInt? text with
    | some n => .ok (.int n)
    | none => .error (.notANumber 10 text)
  | .decimal =>
    match Number.readFloat? text with
    | some x => .ok (.float x)
    | none => .error (.notFloatLiteral text)
  | .truth => .ok (.bool (trueWords.contains (Text.toLower text)))
  | .any => .ok (.str text)

def FieldKind.accept (k : FieldKind) : Value → Except Fault Value
  | .str text => k.read text
  | v => .ok v

namespace SettingsClass

/-- The fields with the values given for them; all readings come before the search for missing
fields. -/
def fill (c : SettingsClass) (given : Entries) : Except Fault (List (String × Value)) := do
  let values ← c.fields.mapM fun f => do
    match Value.lookupKey given f.name with
    | some v => return (f, some (← f.kind.accept v))
    | none => return (f, f.default)
  let missing := values.filterMap fun p => if p.2.isNone then some p.1.name else none
  if !missing.isEmpty then throw (.missingSettings c.name missing)
  return values.map fun p => (p.1.name, p.2.getD .null)

def bind (c : SettingsClass) (s : Settings) : Except Fault (List (String × Value)) :=
  match c.sectionName with
  | none => .error (.notBindable c.name)
  | some key => do c.fill (← s.getSection key (c.fields.map (·.name)))

end SettingsClass
end Criteria
