import Criteria.Number.Reading
import Criteria.Spec.Basic
import Criteria.Text.Casing

/-!
# Making specifications

Constructors that check what they are given. A logical node refuses a child that is no specification,
a negation one that is no filter; paging refuses negative counts, and comparisons, orders and patterns
refuse unknown operators and formats. Specifications also combine by the operators `&`, `|` and `~`.
-/

namespace Criteria.Spec

/-! ## Children -/

/-- The specifications among the children; a child of another kind is a fault of the parent. -/
def children (parent : String) : List Operand → Except Fault (List Spec)
  | [] => .ok []
  | .spec s :: rest => do .ok (s :: (← children parent rest))
  | .foreign v :: _ => .error (.badChild parent .filterOrModifier v.typeName)

def conj? (operands : List Operand) : Except Fault Spec := do
  .ok (.conj (← children "AndX" operands))

def disj? (operands : List Operand) : Except Fault Spec := do
  .ok (.disj (← children "OrX" operands))

/-- A child that has to be a filter. -/
def filterChild (parent : String) : Operand → Except Fault Spec
  | .spec s => if s.isFilter then .ok s else .error (.badChild parent .filter s.typeName)
  | .foreign v => .error (.badChild parent .filter v.typeName)

def neg? (child : Operand) : Except Fault Spec := do .ok (.neg (← filterChild "Not" child))

def having? (child : Operand) : Except Fault Spec := do .ok (.having (← filterChild "Having" child))

/-- A count of all rows, or of those that a child matches. -/
def countOf? : Operand → Except Fault Spec
  | .spec s => .ok (.countOf (some s))
  | .foreign .null => .ok (.countOf none)
  | .foreign v => .error (.badChild "CountOf" .filterOrModifier v.typeName)

/-- A reusable specification standing for what it is given. -/
def standingFor (typeName : String) (under : Option String) : Operand → Spec
  | .spec s => .named typeName under s
  | .foreign v => .namedForeign typeName under v

/-! ## Leaves and modifiers -/

def relationOfSign? (sign : String) : Option Relation :=
  [Relation.eq, .ne, .lt, .le, .gt, .ge].find? fun r => r.sign == sign

def comparison? (under : Option String) (sign field : String) (v : Value) : Except Fault Spec :=
  match relationOfSign? sign with
  | some r => .ok (.filter under field (.compare false r v))
  | none => .error (.badOperator sign)

/-- Membership in the values that a walk through `v` yields. -/
def member? (under : Option String) (negated : Bool) (field : String) (v : Value) :
    Except Fault Spec :=
  match v.walk? with
  | some values => .ok (.filter under field (.member negated values))
  | none => .error (.notIterable v.className)

def like? (under : Option String) (field format : String) (v : Value) : Except Fault Spec :=
  match Placement.ofFormat? format with
  | some p => .ok (.filter under field (.like p v))
  | none => .error (.badFormat format)

/-- The order of a number and an integer; `none` for not-a-number. Other values have no order with
integers. -/
def compareWithInt (sign : String) (v : Value) (n : Int) : Except Fault (Option Ordering) :=
  match v with
  | .bool b => .ok (some (compare (if b then 1 else 0) n))
  | .int m => .ok (some (compare m n))
  | .float x => .ok (x.compareInt? n)
  | v => .error (.notOrdered sign v.className "int")

def checkCount (node : String) (count : Value) : Except Fault Value := do
  if (← compareWithInt "<" count 0) = some .lt then throw (.negativeCount node count.text)
  return count

def limit? (count : Value) : Except Fault Spec := do .ok (.limit (← checkCount "Limit" count))

def offset? (count : Value) : Except Fault Spec := do .ok (.offset (← checkCount "Offset" count))

def orderBy? (under : Option String) (field order : String) : Except Fault Spec :=
  let word := Text.toUpper order
  if word = "ASC" then .ok (.orderBy under field .ascending)
  else if word = "DESC" then .ok (.orderBy under field .descending)
  else .error (.badOrder order)

/-! ## Operators -/

/-- Both, as a conjunction. Two whole numbers combine bit by bit. -/
def andOp (left right : Operand) : Except Fault Operand :=
  match left, right with
  | .spec _, _ => do .ok (.spec (← conj? [left, right]))
  | .foreign (.bool a), .foreign (.bool b) => .ok (.foreign (.bool (a && b)))
  | .foreign a, .foreign b =>
    match a.wholeNumber?, b.wholeNumber? with
    | some m, some n => .ok (.foreign (.int (bitAnd m n)))
    | _, _ => .error (.noBinaryOperator "&" a.className b.className)
  | .foreign a, .spec s => .error (.noBinaryOperator "&" a.className s.className)
where
  /-- Bitwise conjunction of whole numbers in two's complement. -/
  bitAnd (m n : Int) : Int :=
    match m, n with
    | .ofNat a, .ofNat b => ((a &&& b : Nat) : Int)
    | .ofNat a, .negSucc b => ((a - (a &&& b) : Nat) : Int)
    | .negSucc a, .ofNat b => ((b - (a &&& b) : Nat) : Int)
    | .negSucc a, .negSucc b => .negSucc (a ||| b)

/-- One of both, as a disjunction. Two whole numbers combine bit by bit, two maps to their union. -/
def orOp (left right : Operand) : Except Fault Operand :=
  match left, right with
  | .spec _, _ => do .ok (.spec (← disj? [left, right]))
  | .foreign (.bool a), .foreign (.bool b) => .ok (.foreign (.bool (a || b)))
  | .foreign (.map a), .foreign (.map b) =>
    .ok (.foreign (.map (b.foldl (fun m e => Value.insertEntry m e.1 e.2) a)))
  | .foreign a, .foreign b =>
    match a.wholeNumber?, b.wholeNumber? with
    | some m, some n => .ok (.foreign (.int (bitOr m n)))
    | _, _ => .error (.noBinaryOperator "|" a.className b.className)
  | .foreign a, .spec s => .error (.noBinaryOperator "|" a.className s.className)
where
  /-- Bitwise disjunction of whole numbers in two's complement. -/
  bitOr (m n : Int) : Int := -(andOp.bitAnd (-m - 1) (-n - 1)) - 1

/-- The negation of a filter. The complement of a whole number is one less than its negative. -/
def notOp : Operand → Except Fault Operand
  | .spec s =>
    if s.isFilter then .ok (.spec (.neg s)) else .error (.noUnaryOperator "~" s.className)
  | .foreign v =>
    match v.wholeNumber? with
    | some n => .ok (.foreign (.int (-n - 1)))
    | none => .error (.noUnaryOperator "~" v.className)

/-! ## Specifications by example -/

def ofFields (fields : List (String × Value)) : Spec :=
  .conj (fields.map fun f => .filter none f.1 (.compare true .eq f.2))

/-- Fields as a map keeps them: a name given twice has its first place and its last value. -/
def distinctFields (fields : List (String × Value)) : List (String × Value) :=
  fields.foldl (fun out f => setField out f.1 f.2) []
where
  setField (out : List (String × Value)) (name : String) (v : Value) : List (String × Value) :=
    match out with
    | [] => [(name, v)]
    | (n, w) :: rest => if n = name then (n, v) :: rest else (n, w) :: setField rest name v

/-- Equalities for the fields that have a value. -/
def ofPresentFields (fields : List (String × Value)) : Spec :=
  ofFields (fields.filter fun f => !f.2.isNull)

/-- Equalities for the public fields of an example that have a value. -/
def ofExample (fields : List (String × Value)) : Spec :=
  ofPresentFields (fields.filter fun f => !f.1.toList.head?.any (· == '_'))

/-- An entity made from fields; a field that the entity does not have is refused. -/
def entityFields (e : Entity) : List (String × Value) → Except Fault (List (String × Value))
  | [] => .ok []
  | f :: rest => do
    if (e.field? f.1).isNone then throw (.unknownKeyword e.name f.1)
    return f :: (← entityFields e rest)

end Criteria.Spec
