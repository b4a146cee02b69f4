import Criteria.Statement.Clause

/-!
# Statements

A statement selects items from joined tables, with conditions, grouping, order and paging. Every
operation gives a new statement: conditions, joins, grouping and order accumulate, while limit and
offset are replaced.
-/

namespace Criteria

inductive SelectItem where
  | entity (e : Entity)
  | column (e : Entity) (c : Column) (label : Option String)
  /-- The number of rows. -/
  | count (label : Option String)
  deriving DecidableEq, Repr, Inhabited

/-- A relationship joined from one source to another. An outer join keeps rows without a partner. -/
structure JoinStep where
  left : Source
  relationship : Relationship
  target : Source
  outer : Bool
  deriving DecidableEq, Repr, Inhabited

inductive SortDirection where
  | ascending
  | descending
  deriving DecidableEq, Repr, Inhabited

/-- A term to order by. Ascending is the order also where no direction is written. -/
structure SortKey where
  term : Term
  direction : Option SortDirection
  deriving DecidableEq, Repr, Inhabited

structure Statement where
  items : List SelectItem
  /-- Tables selected from whatever the items are. -/
  origins : List Entity := []
  joins : List JoinStep := []
  conditions : List Clause := []
  grouping : List Term := []
  groupConditions : List Clause := []
  sorting : List SortKey := []
  limit : Option Int := none
  offset : Option Int := none
  distinct : Bool := false
  deriving Inhabited

namespace Statement

/-! ## Operations -/

def ofEntity (e : Entity) : Statement := { items := [.entity e] }

def selectFrom (s : Statement) (e : Entity) : Statement := { s with origins := s.origins ++ [e] }

def addCondition (s : Statement) (c : Clause) : Statement :=
  { s with conditions := s.conditions ++ [c] }

def addGroupCondition (s : Statement) (c : Clause) : Statement :=
  { s with groupConditions := s.groupConditions ++ [c] }

def addJoin (s : Statement) (j : JoinStep) : Statement := { s with joins := s.joins ++ [j] }

def addGrouping (s : Statement) (ts : List Term) : Statement :=
  { s with grouping := s.grouping ++ ts }

def addSorting (s : Statement) (ks : List SortKey) : Statement :=
  { s with sorting := s.sorting ++ ks }

/-- The entity that an item selects from. The number of rows belongs to none. -/
def itemEntity? : SelectItem → Option Entity
  | .entity e | .column e _ _ => some e
  | .count _ => none

/-- Counts the rows instead of selecting them; the tables of the former items stay. -/
def countRows (s : Statement) : Statement :=
  { s with items := [.count none], origins := s.origins ++ s.items.filterMap itemEntity? }

/-! ## Tables -/

/-- A table or joined entity with the joins that start at it, directly or through others. -/
structure JoinTree where
  root : Source
  joins : List JoinStep
  deriving DecidableEq, Repr, Inhabited

def JoinTree.sources (t : JoinTree) : List Source := t.root :: t.joins.map (·.target)

/-- Adds a join to the tree that has its left side, or as a tree of its own. -/
def attach (trees : List JoinTree) (j : JoinStep) : List JoinTree :=
  match trees with
  | [] => [⟨j.left, [j]⟩]
  | t :: rest =>
    if t.sources.contains j.left then ⟨t.root, t.joins ++ [j]⟩ :: rest else t :: attach rest j

/-- Adds a source that no tree has yet as a tree of its own. -/
def cover (trees : List JoinTree) (s : Source) : List JoinTree :=
  if trees.any fun t => t.sources.contains s then trees else trees ++ [⟨s, []⟩]

/-- The trees whose product a statement selects from: the given tables, then the joins, then the
tables of the items and of the conditions that are not among them. -/
def trees (s : Statement) : List JoinTree :=
  let given := (s.origins.map Source.table).foldl cover []
  let joined := s.joins.foldl attach given
  let selected := (s.items.filterMap itemEntity?).map Source.table
  (selected ++ Clause.sourcesOf s.conditions).foldl cover joined

/-! ## Views -/

/-- Whether the statement gives one row for each group of rows. -/
def isAggregate (s : Statement) : Bool :=
  !s.grouping.isEmpty || s.items.any fun
    | .count _ => true
    | _ => false

def mapValuesM {m : Type → Type} [Monad m] (f : Value → m Value) (s : Statement) :
    m Statement := do
  let conditions ← Clause.mapAllValuesM f s.conditions
  let groupConditions ← Clause.mapAllValuesM f s.groupConditions
  return { s with conditions, groupConditions }

end Statement
end Criteria
