import Criteria.Fault
import Criteria.Schema
import Criteria.Store.Cell

/-!
# Binding values

A value reaches the store as a parameter. The column beside it and its own kind decide how it is
prepared: a truth value, number, text, date, time of day, moment or byte string is prepared as what it
is, and a value of any other kind as what the column holds. So a date beside a column of moments is not
the first moment of its day. Preparation and binding can each refuse a value.
-/

namespace Criteria

/-! ## Preparation -/

inductive Preparation where
  /-- The value goes to the store as it is. -/
  | plain
  | real
  | boolean
  | date
  | time
  | dateTime
  | bytes
  deriving DecidableEq, Repr

namespace Preparation

def ofColumn : ColumnType → Preparation
  | .integer | .text => .plain
  | .boolean => .boolean
  | .dateTime => .dateTime

def forValue (type : ColumnType) : Value → Preparation
  | .bool _ => .boolean
  | .int _ | .str _ => .plain
  | .float _ => .real
  | .date _ => .date
  | .time _ => .time
  | .dateTime _ => .dateTime
  | .bytes _ => .bytes
  | _ => ofColumn type

/-- The preparation of a list of values, which the first one decides. -/
def forValues (type : ColumnType) (values : List Value) : Preparation :=
  match values with
  | [] => ofColumn type
  | v :: _ => forValue type v

end Preparation

def prepareReal : Value → Except Fault Value
  | .null => .ok .null
  | .bool b => .ok (.float (Binary64.ofInt (if b then 1 else 0)))
  | .int n => .ok (.float (Binary64.ofInt n))
  | .float x => .ok (.float x)
  | .str s =>
    match Number.readFloat? s with
    | some x => .ok (.float x)
    | none => .error (.notReal ("(builtins.ValueError) " ++ (Fault.notFloatLiteral s).message))
  | v =>
    .error (.notReal ("(builtins.TypeError) float() argument must be a string or a real number, " ++
      "not '" ++ v.typeName ++ "'"))

/-- A truth value prepared as a number; one and zero of any kind count as truth values. -/
def prepareBoolean (v : Value) : Except Fault Value :=
  match v with
  | .null => .ok .null
  | .bool b => .ok (.int (if b then 1 else 0))
  | .int 0 => .ok (.int 0)
  | .int 1 => .ok (.int 1)
  | .int _ => .error (.strictBoolean v.printed)
  | .float x =>
    if x.compareInt? 0 = some .eq then .ok (.int 0)
    else if x.compareInt? 1 = some .eq then .ok (.int 1)
    else .error (.notBoolean v.printed)
  | .list _ | .map _ => .error (.unhashable v.typeName)
  | _ => .error (.notBoolean v.printed)

/-- A moment is prepared as its date. -/
def prepareDate : Value → Except Fault Value
  | .null => .ok .null
  | .date d => .ok (.date d)
  | .dateTime t => .ok (.date t.date)
  | _ => .error .notADate

/-- A time of day is prepared as its text. -/
def prepareTime : Value → Except Fault Value
  | .null => .ok .null
  | .time t => .ok (.str t.storedText)
  | _ => .error .notATime

/-- A date is prepared as its first moment, and an offset is dropped. -/
def prepareDateTime : Value → Except Fault Value
  | .null => .ok .null
  | .dateTime t => .ok (.dateTime t.withoutOffset)
  | .date d => .ok (.dateTime (DateTime.ofDate d))
  | _ => .error .notADateTime

def prepareBytes : Value → Except Fault Value
  | .null => .ok .null
  | .bytes content => .ok (.bytes content)
  | v =>
    .error (.notReal ("(builtins.TypeError) memoryview: a bytes-like object is required, not '" ++
      v.typeName ++ "'"))

def prepare : Preparation → Value → Except Fault Value
  | .plain, v => .ok v
  | .real, v => prepareReal v
  | .boolean, v => prepareBoolean v
  | .date, v => prepareDate v
  | .time, v => prepareTime v
  | .dateTime, v => prepareDateTime v
  | .bytes, v => prepareBytes v

/-! ## Binding -/

/-- The cell that a prepared value is bound as; `position` counts the parameters from one. -/
def bindCell (position : Nat) (prepared : Preparation) : Value → Except Fault Cell
  | .null => .ok .null
  | .bool b => .ok (.ofBool b)
  | .int n => if Cell.hasRoom n then .ok (.int n) else .error .integerTooLarge
  | .float x => .ok (if x = .nan then .null else .real x)
  | .str s => .ok (.text s)
  | .bytes content => .ok (.blob content)
  | .dateTime t =>
    .ok (if prepared = .dateTime then .stamp t else .text (t.toTextWith " "))
  | .date d => .ok (.text d.toText)
  | v => .error (.unbindable position v.className)

structure Parameter where
  preparation : Preparation
  value : Value

/-- Binds parameters in order. All are prepared before the first is bound. -/
def bindAll (parameters : List Parameter) : Except Fault (List Cell) := do
  let prepared ← parameters.mapM fun p => prepare p.preparation p.value
  (parameters.zip prepared).zipIdx.mapM fun ((p, v), i) => bindCell (i + 1) p.preparation v

/-- The cell of a value that the store accepts; missing for one that it refuses. -/
def cellOf (preparation : Preparation) (v : Value) : Cell :=
  match prepare preparation v with
  | .error _ => .null
  | .ok v =>
    match bindCell 1 preparation v with
    | .error _ => .null
    | .ok c => c

end Criteria
