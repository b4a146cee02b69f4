import Criteria.Settings.Basic
import Criteria.Text.Utf8

/-!
# Logging

Loggers have dotted names, and each has another above it, in the end the root. A logger with no level of
its own has that of the nearest one above it that has; a message is emitted if its level is not below the
level in force. Configuring sets the root level, the format and the levels that the settings name; it
takes back no level that was set before.
-/

namespace Criteria

/-! ## Levels -/

/-- The number of an unknown level. -/
def informativeLevel : Nat := 20

def levelNumbers : List (String × Nat) :=
  [("CRITICAL", 50), ("FATAL", 50), ("ERROR", 40), ("WARNING", 30), ("WARN", 30), ("INFO", 20),
    ("DEBUG", 10), ("NOTSET", 0)]

/-- The number of a level named in any case. `BASIC_FORMAT` and `_STYLES`, which name other things than
levels, count as unknown. -/
def levelNumber (name : String) : Nat :=
  (levelNumbers.lookup (Text.toUpper name)).getD informativeLevel

/-! ## Loggers -/

/-- A logger besides the root. -/
structure Logger where
  name : String
  /-- The level that it has of its own; zero stands for none. -/
  level : Nat := 0
  /-- The logger above it; none for the root. -/
  parent : Option String
  deriving DecidableEq, Repr, Inhabited

/-- The loggers that were asked for so far. -/
structure Loggers where
  /-- The level of the root. -/
  root : Nat := 30
  known : List Logger := []
  deriving DecidableEq, Repr, Inhabited

namespace Loggers

def rootName : String := "root"

def isRootName (name : String) : Bool := name == "" || name == rootName

/-- The names above a name, the nearest first; of two dots in a row the first separates nothing. The
argument and the results are read backwards. -/
def above : List Char → List (List Char)
  | [] => []
  | [_] => []
  | c :: d :: rest => if c = '.' then (d :: rest) :: above rest else above (d :: rest)

def ancestors (name : String) : List String :=
  (above name.toList.reverse).map fun cs => String.ofList cs.reverse

def find? (ls : Loggers) (name : String) : Option Logger := ls.known.find? (·.name == name)

/-- Whether a logger goes to a new one that its name lies below. It stays where it is if the name of the
logger above it begins with the new name: that one is nearer, or it is the root. -/
def adopts (name : String) (l : Logger) : Bool :=
  (ancestors l.name).contains name &&
    !name.toList.isPrefixOf (l.parent.getD rootName).toList

/-- Makes a logger known, below the nearest known one and above those below its name. -/
def ask (ls : Loggers) (name : String) : Loggers :=
  if isRootName name || (ls.find? name).isSome then ls
  else
    let parent := (ancestors name).find? fun a => (ls.find? a).isSome
    let others := ls.known.map fun l =>
      if adopts name l then { l with parent := some name } else l
    { ls with known := others ++ [{ name := name, parent := parent }] }

/-- The level that a logger has of its own, zero if it has none. -/
def ownLevel (ls : Loggers) (name : String) : Nat :=
  if isRootName name then ls.root else ((ls.find? name).map (·.level)).getD 0

/-- The first level that is not zero on the way from a logger to the root, over at most `steps` others. -/
def levelFrom (ls : Loggers) (steps : Nat) (name : Option String) : Nat :=
  match steps, name.bind ls.find? with
  | steps + 1, some l => if l.level = 0 then ls.levelFrom steps l.parent else l.level
  | _, _ => ls.root

def effectiveLevel (ls : Loggers) (name : String) : Nat :=
  ls.levelFrom ls.known.length (some name)

def setLevel (ls : Loggers) (name : String) (level : Nat) : Loggers :=
  if isRootName name then { ls with root := level }
  else
    let ls := ls.ask name
    { ls with
      known := ls.known.map fun l => if l.name = name then { l with level := level } else l }

end Loggers

/-! ## Configuration -/

structure Logging where
  rootLevel : String := "INFO"
  format : String := "console"
  /-- The levels that the settings name, by logger. -/
  moduleLevels : List (String × String) := []
  loggers : Loggers := {}
  /-- Whether a configuration is in force. Before that every message is emitted. -/
  configured : Bool := false
  deriving DecidableEq, Repr, Inhabited

/-- A step that changes the logging and may fail. The logging is kept also on failure. -/
abbrev LoggingStep := ExceptT Fault (StateM Logging)

namespace Logging

def levelSection : String := "flyspec.logging.level"
def formatKey : String := "flyspec.logging.format"
def rootKey : String := Loggers.rootName

/-- The levels that settings name, in upper case. A name that is not a text counts by its text; loggers
themselves go by texts only. -/
def levelsOf (s : Settings) : Except Fault (List (String × String)) := do
  return (← s.getSection levelSection []).map fun e => (e.1.text, Text.toUpper e.2.text)

def lift {α : Type} (outcome : Except Fault α) : LoggingStep α :=
  match outcome with
  | .ok a => pure a
  | .error f => throw f

/-- Configures from settings. If the levels cannot be had nothing changes; if the format cannot be had
the levels are noted but not in force. -/
def configure (s : Settings) : LoggingStep Unit := do
  let levels ← lift (levelsOf s)
  let root := (levels.lookup rootKey).getD "INFO"
  let modules := levels.filter fun l => l.1 ≠ rootKey
  modify fun l => { l with rootLevel := root, moduleLevels := modules }
  let format ← lift (s.get formatKey (.str "console"))
  modify fun l =>
    { l with
      format := Text.toLower format.text
      configured := true
      loggers :=
        modules.foldl (fun ls m => ls.setLevel m.1 (levelNumber m.2))
          { l.loggers with root := levelNumber root } }

def setLevel (name : String) (level : Value) : LoggingStep Unit :=
  match level with
  | .str level => modify fun l => { l with loggers := l.loggers.setLevel name (levelNumber level) }
  | v => throw (.noAttribute v.className "upper")

/-! ## Messages -/

structure Message where
  logger : String
  /-- The name of the message's level. -/
  level : String
  event : String
  fields : List (String × Value) := []

def Message.levelName (m : Message) : String :=
  match m.level with
  | "warn" => "warning"
  | "fatal" => "critical"
  | name => name

/-- Hands a message to its logger and tells whether it is emitted. -/
def log (m : Message) : StateM Logging Bool := do
  let l ← get
  if l.configured then
    let loggers := l.loggers.ask m.logger
    set { l with loggers := loggers }
    return loggers.effectiveLevel m.logger ≤ levelNumber m.level
  else return true

mutual

/-- A value in the form in which records show it: collections as lists and maps, scalars as they are,
and all else by its written form. -/
def shown : Value → Value
  | .list vs | .tuple vs => .list (shownAll vs)
  | .map es => .map (shownEntries es)
  | .null => .null
  | .bool b => .bool b
  | .int n => .int n
  | .float x => .float x
  | .str s => .str s
  | v => .str v.printed

def shownAll : List Value → List Value
  | [] => []
  | v :: rest => shown v :: shownAll rest

def shownEntries : List (Value × Value) → List (Value × Value)
  | [] => []
  | (k, v) :: rest => (k, shown v) :: shownEntries rest

end

/-- A field of a message in the form in which records show it: bytes count as text. -/
def shownField : Value → Value
  | .bytes content => .str (Text.textOfBytes content)
  | v => shown v

def ownFields : List String := ["event", "level", "logger", "timestamp"]

/-- The data of a record besides its time: the fields of the message, its event, level and logger. -/
def record (m : Message) : List (String × Value) :=
  (m.fields.filter fun f => !ownFields.contains f.1).map
      (fun f => (f.1, shownField f.2)) ++
    [("event", .str m.event), ("level", .str m.levelName),
      ("logger", .str (if Loggers.isRootName m.logger then Loggers.rootName else m.logger))]

/-- Whether records are written as data instead of lines for people. -/
def writesRecords (l : Logging) : Bool := l.configured && l.format == "json"

end Logging
end Criteria
