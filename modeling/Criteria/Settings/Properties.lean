import Criteria.Settings.Basic
import Criteria.Spec.Basic

/-!
# Properties of repositories

What settings decide about repositories: the alias of the root entity, and whether queries report
their text. Both are checked; what is wrong with each field is named.
-/

namespace Criteria

structure Properties where
  /-- The alias of the root entity; never empty. -/
  defaultAlias : String := Criteria.defaultAlias
  /-- Whether queries report their text when they run. -/
  logQueries : Bool := false
  defaultAlias_ne : defaultAlias ≠ "" := by decide

namespace Properties

def className : String := "SpecificationProperties"
def sectionName : String := "flyspec.specification"
def aliasField : String := "default_alias"
def logField : String := "log_queries"

/-! ## Checks -/

inductive Refusal where
  | textExpected
  | textTooShort
  | textMalformed
  | truthUnreadable
  | truthExpected
  deriving DecidableEq, Repr

def Refusal.code : Refusal → String
  | .textExpected => "string_type"
  | .textTooShort => "string_too_short"
  | .textMalformed => "string_unicode"
  | .truthUnreadable => "bool_parsing"
  | .truthExpected => "bool_type"

def textOfBytes? (content : List UInt8) : Option String :=
  String.fromUTF8? (ByteArray.mk content.toArray)

/-- A text that is not empty. -/
abbrev Alias := { s : String // s ≠ "" }

def checkText (s : String) : Except Refusal Alias :=
  if h : s = "" then .error .textTooShort else .ok ⟨s, h⟩

def checkAlias : Value → Except Refusal Alias
  | .str s => checkText s
  | .bytes content =>
    match textOfBytes? content with
    | some s => checkText s
    | none => .error .textMalformed
  | _ => .error .textExpected

/-- The truth value that a word stands for, whatever the case of its ASCII letters. -/
def truthOfWord? (s : String) : Option Bool :=
  let word := s.map Char.toLower
  if ["0", "off", "f", "false", "n", "no"].contains word then some false
  else if ["1", "on", "t", "true", "y", "yes"].contains word then some true
  else none

def checkWord (s : String) : Except Refusal Bool :=
  match truthOfWord? s with
  | some b => .ok b
  | none => .error .truthUnreadable

def checkTruth : Value → Except Refusal Bool
  | .bool b => .ok b
  | .str s => checkWord s
  | .bytes content =>
    match textOfBytes? content with
    | some s => checkWord s
    | none => .error .truthUnreadable
  | .int 0 => .ok false
  | .int 1 => .ok true
  | .int _ => .error .truthUnreadable
  | .float x =>
    if x.compareInt? 0 = some .eq then .ok false
    else if x.compareInt? 1 = some .eq then .ok true
    else if x.isIntegral then .error .truthUnreadable
    else .error .truthExpected
  | _ => .error .truthExpected

/-- Checks a field if it is given. -/
def checkField {α : Type} (given : Entries) (name : String) (otherwise : α)
    (check : Value → Except Refusal α) : Except (String × String) α :=
  match Value.lookupKey given name with
  | none => .ok otherwise
  | some v =>
    match check v with
    | .ok a => .ok a
    | .error why => .error (name, why.code)

/-- Properties from given fields, or the fields that are refused, in order. -/
def check (given : Entries) : Except (List (String × String)) Properties :=
  let name :=
    checkField given aliasField ⟨Criteria.defaultAlias, by decide⟩ checkAlias
  let log := checkField given logField false checkTruth
  match name, log with
  | .ok a, .ok l => .ok ⟨a.1, l, a.2⟩
  | .error e, .ok _ => .error [e]
  | .ok _, .error f => .error [f]
  | .error e, .error f => .error [e, f]

/-! ## Sources -/

/-- Properties from fields given directly. -/
def make (given : Entries) : Except Fault Properties :=
  (check given).mapError (.invalidProperties className)

/-- Properties from settings. -/
def bind (s : Settings) : Except Fault Properties := do
  let given ← s.getSection sectionName [aliasField, logField]
  (check given).mapError (.invalidSettings className sectionName)

def fields (p : Properties) : List (String × Value) :=
  [(aliasField, .str p.defaultAlias), (logField, .bool p.logQueries)]

end Properties
end Criteria
