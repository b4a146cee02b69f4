import Criteria.Statement.Naming
import Criteria.Statement.Sql
import Criteria.Store.Database

/-!
# The rows of a statement

What a statement selects from a database: the product of its joined tables, kept where all conditions
are true, grouped, ordered, freed of duplicates and cut to a page. Everything here is total: values
that the store refuses are found beforehand by `Statement.check`.
-/

namespace Criteria

/-! ## Joined rows -/

/-- One record for each source; none where an outer join found no partner. -/
abbrev Row := List (Source × Option Record)

namespace Row

def record? (row : Row) (s : Source) : Option Record := (row.lookup s).join

def cell (row : Row) (c : ColumnRef) : Cell :=
  match row.record? c.source with
  | some r => r.cell c.source.entity c.column.name
  | none => .null

end Row

def wrote (user post : Record) : Truth :=
  Cell.relate (some .integer) (· == .eq) (user.cell .user userKey.name)
    (post.cell .post authorKey.name)

/-- Whether a post's key is also its author's. Where a user's alias is the name of the posts' table, the
user's key means that of the post. -/
def ownAuthor (post : Record) : Bool :=
  (Cell.relate (some .integer) (· == .eq) (post.cell .post userKey.name)
    (post.cell .post authorKey.name)).holds

def Relationship.links (r : Relationship) (left right : Record) : Truth :=
  match r with
  | .posts => wrote left right
  | .author => wrote right left

/-- The rows that a join makes of one row. -/
def JoinStep.extend (db : Database) (j : JoinStep) (row : Row) : List Row :=
  let partners :=
    match row.record? j.left with
    | none => []
    | some left =>
      (db.records j.target.entity).filter fun right => (j.relationship.links left right).holds
  if partners.isEmpty && j.outer then [row ++ [(j.target, none)]]
  else partners.map fun right => row ++ [(j.target, some right)]

def Statement.JoinTree.rows (db : Database) (t : Statement.JoinTree) : List Row :=
  let start : List Row := (db.records t.root.entity).map fun r => [(t.root, some r)]
  t.joins.foldl (fun rows j => rows.flatMap (j.extend db)) start

def productRows (db : Database) : List Statement.JoinTree → List Row
  | [] => [[]]
  | t :: rest => (t.rows db).flatMap fun row => (productRows db rest).map (row ++ ·)

/-! ## Conditions -/

def Term.cell (row : Row) : Term → Cell
  | .column c => row.cell c
  | .link s r =>
    match row.record? s, row.record? (.table r.target) with
    | some left, some right =>
      match r.links left right with
      | .yes => .ofBool true
      | .no => .ofBool false
      | .unknown => .null
    | _, _ => .null

def Subject.cell (group : List Row) (row : Row) : Subject → Cell
  | .column c => row.cell c
  | .count t => .int ((group.filter fun r => t.cell r ≠ .null).length : Nat)

def Value.beside (type : ColumnType) (v : Value) : Cell :=
  cellOf (.forValue type v) v

def negateIf (negated : Bool) (t : Truth) : Truth := if negated then t.not else t

mutual

def Clause.truth (db : Database) (group : List Row) (row : Row) : Clause → Truth
  | .compare r s v =>
    Cell.relate s.columnType? r.test (s.cell group row) (v.beside s.type)
  | .constant n s b =>
    negateIf n (Cell.relate s.columnType? (· == .eq) (s.cell group row) (.ofBool b))
  | .isNull n s => negateIf n (Truth.ofBool (s.cell group row = .null))
  | .like n c p => negateIf n ((row.cell c).likePattern p)
  | .between n c l h =>
    let type := c.column.type
    negateIf n ((Cell.relate (some type) Relation.ge.test (row.cell c) (l.beside type)).and
      (Cell.relate (some type) Relation.le.test (row.cell c) (h.beside type)))
  | .member n c vs =>
    let preparation := Preparation.forValues c.column.type vs
    negateIf n (Cell.memberOf c.column.type (row.cell c) (vs.map (cellOf preparation)))
  | .related s =>
    if sameName s.name Entity.post.table then Truth.ofBool (db.posts.any ownAuthor)
    else
      match row.record? s with
      | none => .no
      | some user => Truth.ofBool (db.posts.any fun post => (wrote user post).holds)
  | .missing => .unknown
  | .decided b => Truth.ofBool b
  | .conj cs => Clause.truthAll db group row cs
  | .disj cs => Clause.truthAny db group row cs
  | .negation c => (Clause.truth db group row c).not

def Clause.truthAll (db : Database) (group : List Row) (row : Row) : List Clause → Truth
  | [] => .yes
  | c :: rest => (Clause.truth db group row c).and (Clause.truthAll db group row rest)

def Clause.truthAny (db : Database) (group : List Row) (row : Row) : List Clause → Truth
  | [] => .no
  | c :: rest => (Clause.truth db group row c).or (Clause.truthAny db group row rest)

end

/-! ## Groups and order -/

/-- A group of rows; an aggregate over no rows at all is one empty group. -/
abbrev Group := List Row

def leadRow (g : Group) : Row := g.headD []

def compareCells : List Cell → List Cell → Ordering
  | [], [] => .eq
  | [], _ => .lt
  | _, [] => .gt
  | a :: s, b :: t => (a.order b).then (compareCells s t)

def groupRuns (key : Row → List Cell) : List Row → List Group
  | [] => []
  | row :: rest =>
    match groupRuns key rest with
    | [] => [[row]]
    | g :: groups =>
      if compareCells (key row) (key (leadRow g)) == .eq then (row :: g) :: groups
      else [row] :: g :: groups

namespace Statement

def matchingRows (db : Database) (s : Statement) : List Row :=
  (productRows db s.trees).filter fun row =>
    (Clause.truthAll db [row] row s.conditions).holds

/-- The groups that the statement gives one result for: of equal keys in ascending order, or one
group of all rows under an aggregate, or each row by itself. -/
def groups (db : Database) (s : Statement) : List Group :=
  let rows := s.matchingRows db
  if !s.grouping.isEmpty then
    let key (row : Row) : List Cell := s.grouping.map (Term.cell row)
    groupRuns key (rows.mergeSort fun a b => compareCells (key a) (key b) != .gt)
  else if s.isAggregate then [rows]
  else rows.map fun row => [row]

/-- Whether one group comes before another, or neither. -/
def sortOrder (keys : List SortKey) (a b : Group) : Ordering :=
  match keys with
  | [] => .eq
  | k :: rest =>
    let o := (k.term.cell (leadRow a)).order (k.term.cell (leadRow b))
    let o := if k.direction = some .descending then o.swap else o
    o.then (sortOrder rest a b)

end Statement

/-! ## Results -/

inductive Element where
  /-- An entity; none where a group has no row. -/
  | entity (e : Entity) (r : Option Record)
  | cell (type : ColumnType) (c : Cell)
  deriving DecidableEq, Inhabited

def SelectItem.element (g : Group) : SelectItem → Element
  | .entity e => .entity e ((leadRow g).record? (.table e))
  | .column e c _ => .cell c.type ((leadRow g).cell ⟨.table e, c⟩)
  | .count _ => .cell .integer (.int (g.length : Nat))

def dropRepeats {α : Type} [DecidableEq α] (seen : List α) : List α → List α
  | [] => []
  | a :: rest =>
    if seen.contains a then dropRepeats seen rest else a :: dropRepeats (a :: seen) rest

/-- A page of a list. A negative limit is none at all, and a negative offset is zero. -/
def page {α : Type} (limit offset : Option Int) (xs : List α) : List α :=
  let rest := xs.drop (offset.getD 0).toNat
  match limit with
  | none => rest
  | some n => if n < 0 then rest else rest.take n.toNat

namespace Statement

def results (db : Database) (s : Statement) : List (List Element) :=
  let groups := (s.groups db).filter fun g =>
    (Clause.truthAll db g (leadRow g) s.groupConditions).holds
  let sorted := groups.mergeSort fun a b => sortOrder s.sorting a b != .gt
  let rows := sorted.map fun g => s.items.map (SelectItem.element g)
  page s.limit s.offset (if s.distinct then dropRepeats [] rows else rows)

/-- What the store refuses: values that cannot be prepared, then conditions in the wrong place and columns
whose names are ambiguous, then values that cannot be bound. The names in the results come first, then
those in the conditions on groups and on rows, then those by which tables are joined. The limits of the
store on the size of a statement (64 joined tables, patterns of 50000 bytes) are not part of this, nor are
its keywords beyond the reserved ones: an alias `returning` or `nothing` is written without quotes, and the
store does not take it. -/
def check (s : Statement) : Except Fault Unit := do
  let parameters := s.boundParameters
  for p in parameters do
    let _ ← prepare p.preparation p.value
  s.checkNames (s.items.flatMap SelectItem.columns)
  if !s.isAggregate && !s.groupConditions.isEmpty then throw .havingWithoutAggregate
  s.checkNames (Clause.columnsOf s.groupConditions)
  if Clause.anyAggregates s.conditions then throw (.misplacedAggregate s.isAggregate)
  s.checkNames (Clause.columnsOf s.conditions ++ s.joins.flatMap JoinStep.columns)
  let _ ← bindAll parameters

def run (db : Database) (s : Statement) : Except Fault (List (List Element)) := do
  s.check
  return s.results db

end Statement
end Criteria
