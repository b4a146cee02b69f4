import Criteria.Number.Shortest
import Criteria.Calendar.DateTime
import Criteria.Text.Quoted

/-!
# Values

What callers hand to specifications and settings, and what queries give back: scalars, dates,
collections, and objects of which only the kind and the printed form are known. A value has a
written form (`Value.printed`), in which texts are quoted, and a plain text (`Value.text`), in which
a text stands for itself. Both are given for whole numbers of any length, while programs may refuse to write
very long ones (`Value.isWritable`).
-/

namespace Criteria

inductive Value where
  | null
  | bool (b : Bool)
  | int (n : Int)
  | float (x : Binary64)
  | str (s : String)
  | bytes (content : List UInt8)
  | date (d : Date)
  | time (t : TimeOfDay)
  | dateTime (t : DateTime)
  | list (items : List Value)
  | tuple (items : List Value)
  /-- A sequence that can be gone through once. -/
  | iterator (items : List Value)
  /-- Keys with their values, in the order of insertion. -/
  | map (entries : List (Value × Value))
  /-- Anything else, known by the name of its type and its written form, and by whether it is a
  specification. -/
  | object (isSpec : Bool) (typeName written : String)
  deriving Inhabited

namespace Value

/-! ## Kinds -/

/-- The name of a value's type, with the module it belongs to where it has one. -/
def typeName : Value → String
  | .null => "NoneType"
  | .bool _ => "bool"
  | .int _ => "int"
  | .float _ => "float"
  | .str _ => "str"
  | .bytes _ => "bytes"
  | .date _ => "datetime.date"
  | .time _ => "datetime.time"
  | .dateTime _ => "datetime.datetime"
  | .list _ => "list"
  | .tuple _ => "tuple"
  | .iterator _ => "list_iterator"
  | .map _ => "dict"
  | .object _ name _ => name

def shortName (name : String) : String :=
  String.ofList (name.toList.reverse.takeWhile (· ≠ '.')).reverse

/-- The name by which operators and the store call a value's type. -/
def className : Value → String
  | .object _ name _ => shortName name
  | v => v.typeName

/-- A set, which is known by its items only. -/
def setName : String := "set"

def emptySetText : String := "set()"

/-- Zero, emptiness and absence count as false, all else as true. -/
def truthy : Value → Bool
  | .null => false
  | .bool b => b
  | .int n => n ≠ 0
  | .float x => !x.isZero
  | .str s => !s.isEmpty
  | .bytes content => !content.isEmpty
  | .list items | .tuple items => !items.isEmpty
  | .map entries => !entries.isEmpty
  | .object _ name written => !(name == setName && written == emptySetText)
  | _ => true

def isNull : Value → Bool
  | .null => true
  | _ => false

/-! ## Text -/

/-- A length of time as whole days, and the seconds and microseconds above them, each where it is not
zero. -/
def durationParts (micros : Int) : List String :=
  let days := micros / microsPerDay
  let rest := micros % microsPerDay
  let seconds := rest / microsPerSecond
  let micros := rest % microsPerSecond
  (if days = 0 then [] else ["days=" ++ toString days]) ++
    (if seconds = 0 then [] else ["seconds=" ++ toString seconds]) ++
    (if micros = 0 then [] else ["microseconds=" ++ toString micros])

def printedOffset (offset : Int) : String :=
  if offset = 0 then "datetime.timezone.utc"
  else
    "datetime.timezone(datetime.timedelta(" ++ ", ".intercalate (durationParts offset) ++ "))"

/-- Hour and minute, and the finer parts up to the last that is not zero. -/
def printedTime (t : TimeOfDay) : List String :=
  [toString t.hour, toString t.minute] ++
    (if t.second = 0 ∧ t.micro = 0 then [] else [toString t.second]) ++
    (if t.micro = 0 then [] else [toString t.micro])

def printedDate (d : Date) : List String :=
  let (y, m, day) := d.civil
  [toString y, toString m, toString day]

def printedDateTime (t : DateTime) : String :=
  let zone := (t.offset.map fun o => "tzinfo=" ++ printedOffset o).toList
  "datetime.datetime(" ++
    ", ".intercalate (printedDate t.date ++ printedTime t.time ++ zone) ++ ")"

mutual

/-- The written form of a value, with texts quoted. -/
def printed : Value → String
  | .null => "None"
  | .bool b => if b then "True" else "False"
  | .int n => toString n
  | .float x => x.toText
  | .str s => Text.quote s
  | .bytes content => Text.quoteBytes content
  | .date d => "datetime.date(" ++ ", ".intercalate (printedDate d) ++ ")"
  | .time t => "datetime.time(" ++ ", ".intercalate (printedTime t) ++ ")"
  | .dateTime t => printedDateTime t
  | .list items => "[" ++ ", ".intercalate (printedAll items) ++ "]"
  | .tuple [item] => "(" ++ item.printed ++ ",)"
  | .tuple items => "(" ++ ", ".intercalate (printedAll items) ++ ")"
  | .iterator _ => "<list_iterator object>"
  | .map entries => "\x7b" ++ ", ".intercalate (printedEntries entries) ++ "\x7d"
  | .object _ _ text => text

def printedAll : List Value → List String
  | [] => []
  | v :: rest => v.printed :: printedAll rest

def printedEntries : List (Value × Value) → List String
  | [] => []
  | (k, v) :: rest => (k.printed ++ ": " ++ v.printed) :: printedEntries rest

end

/-- How many digits a whole number can be written with. -/
def digitLimit : Nat := 4300

mutual

/-- Whether the written form of a value keeps to the limit on digits. -/
def isWritable : Value → Bool
  | .int n => n.natAbs < Nat.pow 10 digitLimit
  | .list items | .tuple items => areWritable items
  | .map entries => entriesWritable entries
  | _ => true

def areWritable : List Value → Bool
  | [] => true
  | v :: rest => v.isWritable && areWritable rest

def entriesWritable : List (Value × Value) → Bool
  | [] => true
  | (k, v) :: rest => k.isWritable && v.isWritable && entriesWritable rest

end

/-- The plain text of a value: a text stands for itself, dates have their calendar form, and all
else has its written form. Numbers beyond the limit on digits have one here, too: that they are refused where they
are put into patterns, placeholders and keys is left aside. -/
def text : Value → String
  | .str s => s
  | .date d => d.toText
  | .time t => t.toText
  | .dateTime t => t.toTextWith " "
  | v => v.printed

/-! ## Maps -/

/-- A whole number; truth values count as one and zero. -/
def wholeNumber? : Value → Option Int
  | .bool b => some (if b then 1 else 0)
  | .int n => some n
  | _ => none

/-- Numbers as keys are equal if their values are, whatever their kind. -/
def sameNumber? (v w : Value) : Option Bool :=
  match v, w with
  | .float x, .float y => some (x.compare? y == some .eq)
  | .float x, w => w.wholeNumber?.map fun n => x.compareInt? n == some .eq
  | v, .float y => v.wholeNumber?.map fun n => y.compareInt? n == some .eq
  | v, w =>
    match v.wholeNumber?, w.wholeNumber? with
    | some m, some n => some (m == n)
    | _, _ => none

/-- Whether two values are the same key of a map. -/
def sameKey (v w : Value) : Bool :=
  match sameNumber? v w with
  | some b => b
  | none =>
    match v, w with
    | .null, .null => true
    | .str s, .str t => s == t
    | .bytes s, .bytes t => s == t
    | .date d, .date e => d == e
    | .time d, .time e => d == e
    | .dateTime d, .dateTime e => d.instant == e.instant && d.offset.isSome == e.offset.isSome
    | _, _ => false

/-- Sets a key: an existing key keeps its place and gets the new value, a new one goes to the end. -/
def insertEntry (entries : List (Value × Value)) (k v : Value) : List (Value × Value) :=
  match entries with
  | [] => [(k, v)]
  | (k', v') :: rest =>
    if k'.sameKey k then (k', v) :: rest else (k', v') :: insertEntry rest k v

def lookupKey (entries : List (Value × Value)) (name : String) : Option Value :=
  (entries.find? fun e => e.1.sameKey (.str name)).map (·.2)

/-- Whether a value can be a key: collections that can change cannot. -/
def isKey : Value → Bool
  | .list _ | .map _ => false
  | .object _ name _ => name ≠ setName
  | _ => true

def ofFields (fields : List (String × Value)) : Value :=
  .map (fields.map fun f => (.str f.1, f.2))

/-- The items that a walk through a value yields: the elements of a collection, the characters of a
text, the numbers of a byte string, the keys of a map; `none` for what cannot be walked through. -/
def walk? : Value → Option (List Value)
  | .list items | .tuple items | .iterator items => some items
  | .str s => some (s.toList.map fun c => .str (String.singleton c))
  | .bytes content => some (content.map fun b => .int b.toNat)
  | .map entries => some (entries.map (·.1))
  | _ => none

end Value
end Criteria
