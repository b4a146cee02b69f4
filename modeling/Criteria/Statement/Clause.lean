import Criteria.Store.Binding

/-!
# Clauses

A clause is a condition over the rows of a statement, built from comparisons of columns with values.
Negation flips a comparison where there is a flipped one and wraps the clause otherwise, so
`Clause.negate` never changes the number of values in it.
-/

namespace Criteria

/-! ## Columns and terms -/

/-- Where a column comes from: the table of an entity, or a joined entity under an alias. -/
inductive Source where
  | table (entity : Entity)
  | joined (name : String) (entity : Entity)
  deriving DecidableEq, Repr, Inhabited

namespace Source

def entity : Source → Entity
  | .table e => e
  | .joined _ e => e

/-- The name under which the source appears in a statement. -/
def name : Source → String
  | .table e => e.table
  | .joined a _ => a

def isTable : Source → Bool
  | .table _ => true
  | .joined _ _ => false

end Source

structure ColumnRef where
  source : Source
  column : Column
  deriving DecidableEq, Repr, Inhabited

/-- What can be counted, grouped and ordered by: a column, or the join condition of a
relationship that starts at a source. -/
inductive Term where
  | column (c : ColumnRef)
  | link (source : Source) (r : Relationship)
  deriving DecidableEq, Repr, Inhabited

/-- What a comparison is about: a column, or the number of rows on which a term is present. -/
inductive Subject where
  | column (c : ColumnRef)
  | count (t : Term)
  deriving DecidableEq, Repr, Inhabited

namespace Subject

def type : Subject → ColumnType
  | .column c => c.column.type
  | .count _ => .integer

def columnType? : Subject → Option ColumnType
  | .column c => some c.column.type
  | .count _ => none

end Subject

/-! ## Comparisons -/

inductive Relation where
  | eq
  | ne
  | lt
  | le
  | gt
  | ge
  deriving DecidableEq, Repr, Inhabited

namespace Relation

/-- The relation that holds exactly where this one does not. -/
def flip : Relation → Relation
  | .eq => .ne
  | .ne => .eq
  | .lt => .ge
  | .ge => .lt
  | .le => .gt
  | .gt => .le

@[simp] theorem flip_flip (r : Relation) : r.flip.flip = r := by cases r <;> rfl

def test : Relation → Ordering → Bool
  | .eq, o => o == .eq
  | .ne, o => o != .eq
  | .lt, o => o == .lt
  | .le, o => o != .gt
  | .gt, o => o == .gt
  | .ge, o => o != .lt

theorem test_flip (r : Relation) (o : Ordering) : r.flip.test o = !r.test o := by
  cases r <;> cases o <;> rfl

end Relation

/-! ## Clauses -/

inductive Clause where
  /-- `subject relation value`, or with `negated` its opposite through `Relation.flip`. -/
  | compare (relation : Relation) (subject : Subject) (value : Value)
  /-- The subject is, or is not, a truth value written into the statement. -/
  | constant (negated : Bool) (subject : Subject) (value : Bool)
  | isNull (negated : Bool) (subject : Subject)
  | like (negated : Bool) (column : ColumnRef) (pattern : String)
  | between (negated : Bool) (column : ColumnRef) (low high : Value)
  /-- Membership in a list. The list is one parameter whatever its elements are, missing values included. -/
  | member (negated : Bool) (column : ColumnRef) (values : List Value)
  /-- Some post has the row of the source as its author. -/
  | related (source : Source)
  /-- A condition that is never true and never false. -/
  | missing
  /-- A truth value that was known when the clause was built. By itself it is the whole condition. In a larger
  one it stays what it is here; that it may be left out there, or sent as a parameter when it is negated,
  concerns only how the condition is written. -/
  | decided (value : Bool)
  | conj (clauses : List Clause)
  | disj (clauses : List Clause)
  | negation (clause : Clause)
  deriving Inhabited

namespace Clause

def negate : Clause → Clause
  | .compare r s v => .compare r.flip s v
  | .constant n s b => .constant (!n) s b
  | .isNull n s => .isNull (!n) s
  | .like n c p => .like (!n) c p
  | .between n c l h => .between (!n) c l h
  | .member n c vs => .member (!n) c vs
  | .decided b => .decided (!b)
  | c => .negation c

mutual

/-- The parts of nested conjunctions, in order. -/
def conjuncts : Clause → List Clause
  | .conj cs => conjunctsOf cs
  | c => [c]

def conjunctsOf : List Clause → List Clause
  | [] => []
  | c :: rest => conjuncts c ++ conjunctsOf rest

end

mutual

/-- The parts of nested disjunctions, in order. -/
def disjuncts : Clause → List Clause
  | .disj cs => disjunctsOf cs
  | c => [c]

def disjunctsOf : List Clause → List Clause
  | [] => []
  | c :: rest => disjuncts c ++ disjunctsOf rest

end

mutual

/-- The sources whose columns a clause compares, in order of appearance. -/
def sources : Clause → List Source
  | .compare _ s _ | .constant _ s _ | .isNull _ s => subjectSources s
  | .like _ c _ | .between _ c _ _ | .member _ c _ => [c.source]
  | .related _ | .missing | .decided _ => []
  | .conj cs | .disj cs => sourcesOf cs
  | .negation c => sources c

def sourcesOf : List Clause → List Source
  | [] => []
  | c :: rest => sources c ++ sourcesOf rest

def subjectSources : Subject → List Source
  | .column c | .count (.column c) => [c.source]
  | .count (.link s r) => [s, .table r.target]

end

mutual

def aggregates : Clause → Bool
  | .compare _ s _ | .constant _ s _ | .isNull _ s =>
    match s with
    | .count _ => true
    | .column _ => false
  | .conj cs | .disj cs => anyAggregates cs
  | .negation c => aggregates c
  | _ => false

def anyAggregates : List Clause → Bool
  | [] => false
  | c :: rest => aggregates c || anyAggregates rest

end

mutual

/-- Changes every value that a clause compares with; the elements of membership lists stay. -/
def mapValuesM {m : Type → Type} [Monad m] (f : Value → m Value) : Clause → m Clause
  | .compare r s v => return .compare r s (← f v)
  | .between n c l h => return .between n c (← f l) (← f h)
  | .conj cs => return .conj (← mapAllValuesM f cs)
  | .disj cs => return .disj (← mapAllValuesM f cs)
  | .negation c => return .negation (← mapValuesM f c)
  | c => return c

def mapAllValuesM {m : Type → Type} [Monad m] (f : Value → m Value) : List Clause → m (List Clause)
  | [] => return []
  | c :: rest => return (← mapValuesM f c) :: (← mapAllValuesM f rest)

end

end Clause
end Criteria
