import Criteria.Fault
import Criteria.Settings.Layer
import Criteria.Settings.Placeholder
import Criteria.Text.Casing
import Criteria.Text.Split

/-!
# Settings

Nested values that are reached by dotted keys. A variable of the environment named after a key takes
the place of its value; texts may refer to variables and to other keys by placeholders.
-/

namespace Criteria

abbrev Environment := List (String × String)

structure Settings where
  entries : Entries
  environment : Environment := []
  deriving Inhabited

namespace Settings

/-- Settings from a value: anything but a map has no keys. -/
def ofValue (environment : Environment) (v : Value) : Settings :=
  match v with
  | .map es => ⟨es, environment⟩
  | _ => ⟨[], environment⟩

/-! ## Keys -/

/-- The parts of a dotted key; there is always at least one. -/
def keyParts (key : String) : List String := (Text.splitAt '.' key.toList).map String.ofList

/-- The value at the end of a path; null where the path leads nowhere. -/
def follow (v : Value) : List String → Value
  | [] => v
  | part :: rest =>
    match v with
    | .map es => follow ((Value.lookupKey es part).getD .null) rest
    | _ => .null

/-- The value under a dotted key, as it is stored. -/
def lookup (s : Settings) (key : String) : Value := follow (.map s.entries) (keyParts key)

/-- The start of keys that variables leave out. -/
def ownStart : String := "flyspec."

/-- The variable that takes the place of a key. -/
def variableName (key : String) : String :=
  let rest :=
    if ownStart.toList.isPrefixOf key.toList then
      String.ofList (key.toList.drop ownStart.toList.length)
    else key
  "FLYSPEC_" ++ (Text.toUpper rest).map fun c => if c = '.' ∨ c = '-' then '_' else c

/-! ## Placeholders -/

/-- How many texts a chain of references may pass through. -/
def chainLimit : Nat := 11

/-- What a reference stands for: the variable of that very name, else the text of the value under the
key, else the default. The text of a value is expanded by `expandValue` first. -/
def resolveReference (s : Settings) (expandValue : String → Except Fault String)
    (reference : List Char) : Except Fault String :=
  let (name, default) := Piece.split reference
  let name := String.ofList name
  match s.environment.lookup name with
  | some v => .ok v
  | none =>
    match s.lookup name with
    | .null =>
      match default with
      | some d => .ok (String.ofList d)
      | none => .error (.unresolvedPlaceholder (String.ofList reference))
    | found => if Piece.begins found.text.toList then expandValue found.text else .ok found.text

/-- A text with its placeholders replaced from left to right, through at most `fuel` texts. -/
def expandWithin (s : Settings) : Nat → String → Except Fault String
  | 0, text => .error (.placeholderDepth text)
  | fuel + 1, text => do
    let parts ← (Piece.parts text.toList).mapM fun
      | .char c => .ok (String.singleton c)
      | .reference name => s.resolveReference (expandWithin s fuel) name
    return String.join parts

def expand (s : Settings) (text : String) : Except Fault String :=
  s.expandWithin chainLimit text

/-- The value in force for a key whose stored value is given. -/
def resolve (s : Settings) (key : String) (stored : Value) : Except Fault Value :=
  match s.environment.lookup (variableName key) with
  | some v => .ok (.str v)
  | none =>
    match stored with
    | .str text => (s.expand text).map .str
    | v => .ok v

/-! ## Access -/

/-- The value of a key, or a default where there is none. -/
def get (s : Settings) (key : String) (default : Value) : Except Fault Value := do
  match ← s.resolve key (s.lookup key) with
  | .null => return default
  | v => return v

mutual

def depth : Value → Nat
  | .map es => depthAll es + 1
  | _ => 0

def depthAll : Entries → Nat
  | [] => 0
  | (_, v) :: rest => max (depth v) (depthAll rest)

end

/-- Entries with a missing value for every named field that they lack. -/
def withFields (es : Entries) (fields : List String) : Entries :=
  fields.foldl
    (fun es f => if (Value.lookupKey es f).isSome then es else es ++ [(.str f, .null)]) es

/-- The values in force below a key, down to `fuel` levels. -/
def sectionWithin (s : Settings) (fuel : Nat) (key : String) (fields : List String) :
    Except Fault Entries :=
  match fuel with
  | 0 => .ok []
  | fuel + 1 => do
    let stored :=
      match s.lookup key with
      | .map es => es
      | _ => []
    let resolved ← (withFields stored fields).mapM fun e => do
      let full := key ++ "." ++ e.1.text
      match e.2 with
      | .map _ => return (e.1, Value.map (← sectionWithin s fuel full []))
      | v => return (e.1, ← s.resolve full v)
    return resolved.filter fun e => !e.2.isNull

/-- The values in force below a key; the named fields are looked for in the environment also where
nothing is stored for them. -/
def getSection (s : Settings) (key : String) (fields : List String) : Except Fault Entries :=
  s.sectionWithin (depthAll s.entries + 2) key fields

end Settings
end Criteria
