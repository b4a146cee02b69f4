import Criteria.Query.Basic
import Criteria.Spec.Make

/-!
# Result modifiers

A result modifier adjusts a query before it runs: the form of its results, options of its execution,
or the moments it compares with. Modifiers are applied in order; one that fails leaves the query as
those before it have made it.
-/

namespace Criteria

/-! ## Rounding moments -/

/-- A whole number of seconds, or a fraction of it rounded to microseconds, as microseconds. -/
def stepMicros (seconds : Value) : Except Fault Int :=
  match seconds with
  | .bool b => .ok (if b then 1000000 else 0)
  | .int n =>
    let days := n / 86400
    if -999999999 ≤ days ∧ days ≤ 999999999 then .ok (n * 1000000) else .error (.stepTooLong days)
  | .float x =>
    match x.truncate with
    | .error why => .error (.truncation why)
    | .ok whole =>
      let days := whole / 86400
      if days < -999999999 ∨ 999999999 < days then .error (.stepTooLong days)
      else
        let rest := (Binary64.mul (Binary64.ofInt 1000000) x.fraction).roundToInt
        .ok (whole * 1000000 + rest)
  | v => .error (.notOrdered "<=" v.className "int")

/-- A moment moved down to the grid of a step of seconds. -/
def roundMoment (seconds : Value) (t : DateTime) : Except Fault DateTime := do
  let step ← stepMicros seconds
  if step = 0 then throw .zeroStep
  match t.floorTo? step with
  | some t => .ok t
  | none => .error .outsideCalendar

def roundValue (seconds : Value) : Value → Except Fault Value
  | .dateTime t => (roundMoment seconds t).map .dateTime
  | v => .error (.noAttribute v.className "tzinfo")

def roundBound (seconds : Value) : Value → Except Fault Value
  | .dateTime t => roundValue seconds (.dateTime t)
  | v => .ok v

/-! ## Modifiers -/

inductive Modifier where
  | asArray
  | asScalar
  | asSingleScalar
  /-- Rounds every moment that the statement compares with, down to a step of seconds. -/
  | round (seconds : Value)
  | options (fields : List (String × Value))
  /-- Several modifiers, applied in order. -/
  | collection (items : List Modifier)
  /-- A caller's own kind, which notes a name. -/
  | note (typeName name : String)
  /-- A caller's own kind, which fails. -/
  | fail (typeName message : String)
  /-- Adjusts queries, by asking for scalars, without being a result modifier. -/
  | lookalike (typeName : String)
  /-- Anything else. -/
  | foreign (what : Operand)
  deriving Inhabited

/-- A step that changes a query and may fail. The query is kept also on failure. -/
abbrev Modifying := ExceptT Fault (StateM Query)

namespace Modifier

def round? (seconds : Value) : Except Fault Modifier := do
  match ← Spec.compareWithInt "<=" seconds 0 with
  | some .gt | none => return .round seconds
  | _ => throw (.nonPositiveStep seconds.text)

/-- Whether it is a result modifier. -/
def isGenuine : Modifier → Bool
  | .lookalike _ | .foreign _ => false
  | _ => true

def typeName : Modifier → String
  | .asArray => "flyspec.result.modifiers.AsArray"
  | .asScalar => "flyspec.result.modifiers.AsScalar"
  | .asSingleScalar => "flyspec.result.modifiers.AsSingleScalar"
  | .round _ => "flyspec.result.modifiers.RoundDateTime"
  | .options _ => "flyspec.result.modifiers.ExecutionOption"
  | .collection _ => "flyspec.result.collection.ResultModifierCollection"
  | .note t _ | .fail t _ | .lookalike t => t
  | .foreign what => what.typeName

mutual

def printed : Modifier → String
  | .collection items => "ResultModifierCollection(" ++ ", ".intercalate (printedAll items) ++ ")"
  | .foreign what => what.printed
  | m => Spec.opaqueText m.typeName

def printedAll : List Modifier → List String
  | [] => []
  | m :: rest => printed m :: printedAll rest

end

/-! ## Application -/

def change (f : Query → Query) : Modifying Unit := modify f

/-- Why something that is no result modifier cannot be applied by itself. -/
def applyFault : Operand → Fault
  | .foreign v => .noAttribute v.className "modify"
  | .spec s =>
    if s.isModifier then .missingArgument (owner s ++ ".modify") "alias"
    else .noAttribute s.className "modify"
where
  /-- The type that defines how a specification modifies. -/
  owner : Spec → String
    | .conj _ | .disj _ => "LogicX"
    | .join _ _ _ _ => "Join"
    | .base _ | .named _ _ _ | .namedForeign _ _ _ => "BaseSpecification"
    | s => s.className

mutual

def apply : Modifier → Modifying Unit
  | .asArray => change fun q => { q with mode := .array }
  | .asScalar | .lookalike _ => change fun q => { q with mode := .scalar }
  | .asSingleScalar => change fun q => { q with mode := .singleScalar }
  | .round seconds => do
    match (← get).statement.mapValuesM (roundBound seconds) with
    | .ok s => change fun q => { q with statement := s }
    | .error f => throw f
  | .options fields =>
    change fun q =>
      { q with options := fields.foldl (fun os f => Query.setOption os f.1 f.2) q.options }
  | .collection items => applyAll items
  | .note _ name => change fun q => { q with notes := q.notes ++ [name] }
  | .fail _ message => throw (.raised message)
  | .foreign what => throw (applyFault what)

/-- Applies the members of a collection up to the first that is no result modifier or fails. -/
def applyAll : List Modifier → Modifying Unit
  | [] => pure ()
  | m :: rest => do
    if !m.isGenuine then throw (.foreignMember m.typeName)
    change fun q => { q with trace := q.trace ++ [.applying m.typeName] }
    apply m
    applyAll rest

end

end Modifier
end Criteria
