import Criteria.Fault
import Criteria.Statement.Basic

/-!
# Specifications

A specification is a tree that says which entities to find and how. Its nodes have two capabilities:
a *filter* contributes a condition, and a *modifier* changes the statement (joins, order, paging,
projection). Logical nodes have both. A node names the entity it works on by an alias; a node without
one works on the alias it is applied under.
-/

namespace Criteria

/-! ## Leaves -/

/-- Where the wildcard stands around the value of a pattern. -/
inductive Placement where
  | contains
  | startsWith
  | endsWith
  deriving DecidableEq, Repr, Inhabited

namespace Placement

def around : Placement → String × String
  | .contains => ("%", "%")
  | .startsWith => ("", "%")
  | .endsWith => ("%", "")

def format (p : Placement) : String := p.around.1 ++ "\x7b\x7d" ++ p.around.2

/-- The value between its wildcards. -/
def pattern (p : Placement) (v : Value) : String := p.around.1 ++ v.text ++ p.around.2

def ofFormat? (s : String) : Option Placement :=
  [Placement.contains, .startsWith, .endsWith].find? fun p => p.format == s

end Placement

def Relation.name : Relation → String
  | .eq => "Eq"
  | .ne => "Neq"
  | .lt => "Lt"
  | .le => "Lte"
  | .gt => "Gt"
  | .ge => "Gte"

def Relation.sign : Relation → String
  | .eq => "="
  | .ne => "<>"
  | .lt => "<"
  | .le => "<="
  | .gt => ">"
  | .ge => ">="

/-- The condition that a leaf puts on its field. -/
inductive Predicate where
  /-- A comparison, made by its operator or, with `named`, by the name of the comparison. -/
  | compare (named : Bool) (relation : Relation) (value : Value)
  | member (negated : Bool) (values : List Value)
  | isNull (negated : Bool)
  | like (placement : Placement) (value : Value)
  | between (low high : Value)
  /-- No condition is said yet; such a leaf cannot be built. -/
  | unsaid
  deriving Inhabited

def Predicate.name : Predicate → String
  | .compare true r _ => r.name
  | .compare false _ _ => "Comparison"
  | .member n _ => if n then "NotIn" else "In"
  | .isNull n => if n then "IsNotNull" else "IsNull"
  | .like _ _ => "Like"
  | .between _ _ => "Between"
  | .unsaid => "FieldFilter"

inductive JoinKind where
  | join
  | inner
  | left
  deriving DecidableEq, Repr, Inhabited

def JoinKind.isOuter : JoinKind → Bool
  | .left => true
  | _ => false

def JoinKind.name : JoinKind → String
  | .join => "Join"
  | .inner => "InnerJoin"
  | .left => "LeftJoin"

/-! ## Trees -/

inductive Spec where
  | filter (under : Option String) (field : String) (predicate : Predicate)
  /-- A caller's own kind of condition: the number of rows on which a field is present is above a
  threshold. -/
  | countAbove (typeName : String) (under : Option String) (field : String) (threshold : Value)
  | conj (children : List Spec)
  | disj (children : List Spec)
  | neg (child : Spec)
  | join (kind : JoinKind) (under : Option String) (field newAlias : String)
  | limit (count : Value)
  | offset (count : Value)
  | orderBy (under : Option String) (field : String) (direction : SortDirection)
  | groupBy (under : Option String) (field : String)
  | distinct
  /-- The child's condition is put on groups instead of rows. -/
  | having (child : Spec)
  /-- The rows that the child matches are counted. -/
  | countOf (child : Option Spec)
  /-- Neither a condition nor a change. -/
  | idle
  /-- A reusable specification that stands for nothing yet. -/
  | base (under : Option String)
  /-- A caller's own reusable specification, which stands for a tree, under an alias of its own if it has
  one. -/
  | named (typeName : String) (under : Option String) (inner : Spec)
  /-- A caller's own reusable specification that gives something else where its tree should be. -/
  | namedForeign (typeName : String) (under : Option String) (given : Value)
  deriving Inhabited

/-- What stands where a specification is expected: a specification or something else. -/
inductive Operand where
  | spec (s : Spec)
  | foreign (v : Value)
  deriving Inhabited

/-- The alias under which entities are reached where nothing else is said. -/
def defaultAlias : String := "e"

/-- The alias a node works on: its own, unless it is missing or empty. -/
def effectiveAlias (own : Option String) (outer : String) : String :=
  match own with
  | some a => if a.isEmpty then outer else a
  | none => outer

namespace Spec

/-! ## Capabilities -/

/-- Whether a node contributes a condition. -/
def isFilter : Spec → Bool
  | .filter _ _ _ | .countAbove _ _ _ _ | .conj _ | .disj _ | .neg _ | .countOf _ | .idle
  | .base _ | .named _ _ _ | .namedForeign _ _ _ => true
  | _ => false

/-- Whether a node changes the statement. -/
def isModifier : Spec → Bool
  | .filter _ _ _ | .countAbove _ _ _ _ => false
  | _ => true

/-! ## Names -/

def typeName : Spec → String
  | .filter _ _ p => "flyspec.specification.filter." ++ p.name
  | .countAbove t _ _ _ => t
  | .conj _ => "flyspec.specification.logic.AndX"
  | .disj _ => "flyspec.specification.logic.OrX"
  | .neg _ => "flyspec.specification.logic.Not"
  | .join k _ _ _ => "flyspec.specification.query_modifier." ++ k.name
  | .limit _ => "flyspec.specification.query_modifier.Limit"
  | .offset _ => "flyspec.specification.query_modifier.Offset"
  | .orderBy _ _ _ => "flyspec.specification.query_modifier.OrderBy"
  | .groupBy _ _ => "flyspec.specification.query_modifier.GroupBy"
  | .distinct => "flyspec.specification.query_modifier.Distinct"
  | .having _ => "flyspec.specification.query_modifier.Having"
  | .countOf _ => "flyspec.specification.query_modifier.CountOf"
  | .idle => "flyspec.specification.base.Specification"
  | .base _ => "flyspec.specification.base.BaseSpecification"
  | .named t _ _ | .namedForeign t _ _ => t

def className (s : Spec) : String := Value.shortName s.typeName

/-! ## Written form -/

/-- The field of a leaf, with its alias in front where it has one. -/
def targetText (under : Option String) (field : String) : String :=
  Text.quote (match under with
    | some a => if a.isEmpty then field else a ++ "." ++ field
    | none => field)

def opaqueText (typeName : String) : String := "<" ++ typeName ++ " object>"

mutual

def printed : Spec → String
  | .filter _ f p@(.compare _ r v) =>
    p.name ++ "(" ++ Text.quote f ++ " " ++ r.sign ++ " " ++ v.printed ++ ")"
  | .filter a f p => p.name ++ "(" ++ targetText a f ++ ")"
  | .conj cs => "AndX(" ++ ", ".intercalate (printedAll cs) ++ ")"
  | .disj cs => "OrX(" ++ ", ".intercalate (printedAll cs) ++ ")"
  | .neg c => "Not(" ++ printed c ++ ")"
  | .join k _ f n =>
    k.name ++ "(" ++ Text.quote f ++ " AS " ++ Text.quote n ++ ")"
  | s => opaqueText s.typeName

def printedAll : List Spec → List String
  | [] => []
  | s :: rest => printed s :: printedAll rest

end

mutual

/-- Whether a specification can be written: every number that its written form shows can. -/
def isWritable : Spec → Bool
  | .filter _ _ (.compare _ _ v) => v.isWritable
  | .conj cs | .disj cs => areWritable cs
  | .neg c => isWritable c
  | _ => true

def areWritable : List Spec → Bool
  | [] => true
  | s :: rest => isWritable s && areWritable rest

end

end Spec

namespace Operand

def typeName : Operand → String
  | .spec s => s.typeName
  | .foreign v => v.typeName

def className : Operand → String
  | .spec s => s.className
  | .foreign v => v.className

def printed : Operand → String
  | .spec s => s.printed
  | .foreign v => v.printed

def isWritable : Operand → Bool
  | .spec s => s.isWritable
  | .foreign v => v.isWritable

/-- The written form, unless it shows a number with too many digits. -/
def written (o : Operand) : Except Fault String :=
  if o.isWritable then .ok o.printed else .error .tooManyDigits

end Operand
end Criteria
