import Criteria.Builder
import Criteria.Spec.Basic

/-!
# Applying specifications

Applying a specification to a builder has two phases. `Spec.modify` visits the tree depth first, from
left to right, and lets every modifier change the builder; conditions of groups are built on the way.
`Spec.clause?` then reads the builder and builds the condition of the whole tree, in which a node
without a condition is left out and a single condition stands for itself. The condition therefore may
use aliases that are joined anywhere in the tree.
-/

namespace Criteria

/-! ## Conditions on a field -/

namespace Predicate

/-- A comparison with a missing value or a truth value asks for presence or is written out; only
equality and its opposite can do so. -/
def compareClause (r : Relation) (s : Subject) (v : Value) : Except Fault Clause :=
  match v, r with
  | .null, .eq => .ok (.isNull false s)
  | .null, .ne => .ok (.isNull true s)
  | .bool b, .eq => .ok (.constant false s b)
  | .bool b, .ne => .ok (.constant true s b)
  | .null, _ | .bool _, _ => .error .constantOperand
  | v, r => .ok (.compare r s v)

def onColumn (c : ColumnRef) : Predicate → Except Fault Clause
  | .compare _ r v => compareClause r (.column c) v
  | .member n vs => .ok (.member n c vs)
  | .isNull n => .ok (.isNull n (.column c))
  | .like p v => .ok (.like false c (p.pattern v))
  | .between l h => .ok (.between false c l h)
  | .unsaid => .error .abstractFilter

/-- The operator by which a comparison is refused. -/
def operatorText : Relation → String
  | .eq => "<built-in function eq>"
  | .ne => "<built-in function ne>"
  | .lt => "<built-in function lt>"
  | .le => "<built-in function le>"
  | .gt => "<built-in function gt>"
  | .ge => "<built-in function ge>"

/-- The condition that a source has, or has no, related entity. -/
def relatedClause (s : Source) (r : Relationship) (present : Bool) : Clause :=
  match r with
  | .posts => if present then .related s else .negation (.related s)
  | .author => .isNull present (.column ⟨s, authorKey⟩)

/-- The condition on a relationship: only its presence can be asked for. -/
def onRelationship (s : Source) (r : Relationship) : Predicate → Except Fault Clause
  | .compare _ .eq .null => .ok (relatedClause s r false)
  | .compare _ .ne .null => .ok (relatedClause s r true)
  | .compare _ .eq _ => .error (if r.isCollection then .collectionCompared else .entityExpected)
  | .compare _ .ne v =>
    .error (if r.isCollection then .collectionCompared
      else .noAttribute v.className "_sa_instance_state")
  | .compare _ op _ => .error (.noRelationshipOperator (operatorText op))
  | .member n _ =>
    .error (if n then .noRelationshipOperator "<function not_in_op>" else .membershipOfRelationship)
  | .isNull n => .error (.noRelationshipOperator (if n then "<function is_not>" else "<function is_>"))
  | .like _ _ => .error (.noRelationshipOperator "<function like_op>")
  | .between _ _ => .error (.noRelationshipOperator "<function between_op>")
  | .unsaid => .error .abstractFilter

/-- How an attribute compares with a value. It is compared as it is, while the condition is built: texts have
an order, and nothing else has one. -/
def compareAttribute (r : Relation) (a : Attribute) (v : Value) : Except Fault Bool :=
  match r, a, v with
  | r, .text s, .str t => .ok (r.test (Cell.compareText s t))
  | .eq, _, _ => .ok false
  | .ne, _, _ => .ok true
  | r, a, v => .error (.notOrdered r.sign a.typeName v.className)

/-- The condition on an attribute of a class that is neither column nor relationship. -/
def onAttribute (a : Attribute) : Predicate → Except Fault Clause
  | .compare _ r v => do .ok (.decided (← compareAttribute r a v))
  | .member n _ => .error (.noAttribute a.typeName (if n then "not_in" else "in_"))
  | .isNull n => .error (.noAttribute a.typeName (if n then "is_not" else "is_"))
  | .like _ _ => .error (.noAttribute a.typeName "like")
  | .between _ _ => .error (.noAttribute a.typeName "between")
  | .unsaid => .error .abstractFilter

end Predicate

/-! ## The condition of a tree -/

namespace Spec

/-- Joins conditions: none of none, a single one as it is. -/
def combine (join : List Clause → Clause) : List Clause → Option Clause
  | [] => none
  | [c] => some c
  | cs => some (join cs)

def leafClause (b : Builder) (under field : String) (p : Predicate) : Except Fault Clause := do
  match ← b.field field under with
  | (s, .column c) => p.onColumn ⟨s, c⟩
  | (s, .relationship r) => p.onRelationship s r
  | (_, .plain a) => p.onAttribute a

mutual

/-- The condition that a specification contributes under an alias. -/
def clause? (b : Builder) (under : String) : Spec → Except Fault (Option Clause)
  | .filter a f p => do .ok (some (← leafClause b (effectiveAlias a under) f p))
  | .countAbove _ a f v => do
    let t ← b.term f (effectiveAlias a under)
    .ok (some (← Predicate.compareClause .gt (.count t) v))
  | .conj cs => do .ok (combine .conj (← clauses b under cs))
  | .disj cs => do .ok (combine .disj (← clauses b under cs))
  | .neg c => do .ok ((← clause? b under c).map Clause.negate)
  | .countOf (some c) => clause? b under c
  | .named _ a c => clause? b (effectiveAlias a under) c
  | _ => .ok none

/-- The conditions of those specifications in a list that contribute one. -/
def clauses (b : Builder) (under : String) : List Spec → Except Fault (List Clause)
  | [] => .ok []
  | s :: rest => do
    let c ← clause? b under s
    let cs ← clauses b under rest
    .ok (c.toList ++ cs)

end

/-! ## Changes of the statement -/

/-- The key of an order; only columns can be ordered by. -/
def sortKey (b : Builder) (under field : String) (direction : SortDirection) :
    Except Fault SortKey := do
  match ← b.field field under with
  | (s, .column c) => .ok ⟨.column ⟨s, c⟩, some direction⟩
  | (_, .relationship _) =>
    .error (.noRelationshipOperator (match direction with
      | .ascending => "<function asc_op>"
      | .descending => "<function desc_op>"))
  | (_, .plain a) =>
    .error (.noAttribute a.typeName (match direction with
      | .ascending => "asc"
      | .descending => "desc"))

/-- Adds the condition of a specification, if it has one, through `add`. -/
def addClause (add : Statement → Clause → Statement) (under : String) (s : Spec) :
    Building Unit := do
  match ← Builder.ask fun b => s.clause? b under with
  | some c => Builder.change fun statement => add statement c
  | none => pure ()

mutual

/-- The changes that a specification makes under an alias. -/
def modify (under : String) : Spec → Building Unit
  | .conj cs | .disj cs => modifyAll under cs
  | .neg c => modify under c
  | .join k a f n => Builder.join f n (effectiveAlias a under) k.isOuter
  | .limit n => Builder.limit n
  | .offset n => Builder.offset n
  | .orderBy a f d => do
    let k ← Builder.ask fun b => sortKey b (effectiveAlias a under) f d
    Builder.change fun s => s.addSorting [k]
  | .groupBy a f => do
    let t ← Builder.ask fun b => b.term f (effectiveAlias a under)
    Builder.change fun s => s.addGrouping [t]
  | .distinct => Builder.distinct
  | .having c => do
    modify under c
    addClause Statement.addGroupCondition under c
  | .countOf (some c) => do
    Builder.change Statement.countRows
    modify under c
  | .countOf none => Builder.change Statement.countRows
  | .named _ a c => modify (effectiveAlias a under) c
  | _ => pure ()

def modifyAll (under : String) : List Spec → Building Unit
  | [] => pure ()
  | s :: rest => do
    modify under s
    modifyAll under rest

end

/-- Applies a specification: its changes first, then its condition on rows. -/
def apply (under : String) (s : Spec) : Building Unit := do
  s.modify under
  addClause Statement.addCondition under s

end Spec

namespace Operand

/-- Applies what stands in the place of a specification; anything else changes nothing. -/
def apply (under : String) : Operand → Building Unit
  | .spec s => s.apply under
  | .foreign _ => pure ()

/-- The condition of what stands in the place of a filter; anything else is refused. -/
def clause? (b : Builder) (under : String) (o : Operand) : Except Fault (Option Clause) :=
  match o with
  | .spec s =>
    if s.isFilter then s.clause? b under else .error (.noAttribute o.className "get_filter")
  | .foreign _ => .error (.noAttribute o.className "get_filter")

/-- The changes of what stands in the place of a modifier; anything else is refused. -/
def modify (under : String) (o : Operand) : Building Unit :=
  match o with
  | .spec s => if s.isModifier then s.modify under else throw (.noAttribute o.className "modify")
  | .foreign _ => throw (.noAttribute o.className "modify")

end Operand

end Criteria
