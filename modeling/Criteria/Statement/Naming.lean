import Criteria.Statement.Basic

/-!
# Names of columns

A statement names a column by its source and its own name, and a source by its table or alias; ASCII letters
of either case are alike. `Statement.checkNames` refuses a column whose name two sources of the statement
answer to.
-/

namespace Criteria

def sameName (s t : String) : Bool := s.map Char.toLower == t.map Char.toLower

def Source.answers (s : Source) (c : ColumnRef) : Bool :=
  sameName s.name c.source.name && (s.entity.column? c.column.name).isSome

/-- Whether two of some sources answer to the name of a column. -/
def ColumnRef.isAmbiguous (sources : List Source) (c : ColumnRef) : Bool :=
  1 < (sources.filter fun s => s.answers c).length

/-- The columns by which a relationship joins two sources, that of the users first. -/
def Relationship.keys (r : Relationship) (left right : Source) : List ColumnRef :=
  match r with
  | .posts => [⟨left, userKey⟩, ⟨right, authorKey⟩]
  | .author => [⟨right, userKey⟩, ⟨left, authorKey⟩]

def Term.columns : Term → List ColumnRef
  | .column c => [c]
  | .link s r => r.keys s (.table r.target)

def Subject.columns : Subject → List ColumnRef
  | .column c => [c]
  | .count t => t.columns

mutual

/-- The columns that a clause names, in order. Of the rows of another table only the key to the own row is
named here. -/
def Clause.columns : Clause → List ColumnRef
  | .compare _ s _ | .constant _ s _ | .isNull _ s => s.columns
  | .like _ c _ | .between _ c _ _ | .member _ c _ => [c]
  | .related s => [⟨s, userKey⟩]
  | .missing | .decided _ => []
  | .conj cs | .disj cs => Clause.columnsOf cs
  | .negation c => Clause.columns c

def Clause.columnsOf : List Clause → List ColumnRef
  | [] => []
  | c :: rest => Clause.columns c ++ Clause.columnsOf rest

end

def SelectItem.columns : SelectItem → List ColumnRef
  | .entity e => e.columns.map fun c => ⟨.table e, c⟩
  | .column e c _ => [⟨.table e, c⟩]
  | .count _ => []

def JoinStep.columns (j : JoinStep) : List ColumnRef := j.relationship.keys j.left j.target

namespace Statement

def sources (s : Statement) : List Source := s.trees.flatMap JoinTree.sources

def firstAmbiguous? (s : Statement) (cs : List ColumnRef) : Option ColumnRef :=
  cs.find? (ColumnRef.isAmbiguous s.sources)

def checkNames (s : Statement) (cs : List ColumnRef) : Except Fault Unit :=
  match s.firstAmbiguous? cs with
  | some c => .error (.ambiguousColumn c.source.name c.column.name)
  | none => .ok ()

end Statement
end Criteria
