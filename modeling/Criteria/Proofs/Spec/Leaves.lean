import Criteria.Proofs.Spec.Meaning

/-!
# Leaves on rows

The condition of a leaf is that of its predicate on the column that its field is (`clause?_of_column`), and the
condition of a negation is the opposite one (`clause?_neg`). A specification holds on a row if its condition is true
there; a row of which it is neither true nor false does not count.
-/

namespace Criteria

theorem Truth.holds_eq_true {t : Truth} : t.holds = true ↔ t = .yes := by
  cases t <;> decide

namespace Spec

variable {b : Builder} {under : String}

/-- Whether the condition that a builder makes for a specification is true of a row. -/
def HoldsOn (b : Builder) (under : String) (db : Database) (group : List Row) (row : Row) (s : Spec) : Prop :=
  ∃ c, s.clause? b under = .ok (some c) ∧ Clause.truth db group row c = .yes

theorem holdsOn_of_clause? {db : Database} {group : List Row} {row : Row} {s : Spec} {c : Clause}
    (h : s.clause? b under = .ok (some c)) :
    s.HoldsOn b under db group row ↔ Clause.truth db group row c = .yes := by
  simp [HoldsOn, h]

/-- The condition of a leaf is that of its predicate on what its field is. -/
theorem clause?_filter (a : Option String) (field : String) (p : Predicate) :
    (Spec.filter a field p).clause? b under = (leafClause b (effectiveAlias a under) field p).map some := by
  rw [clause?]
  cases leafClause b (effectiveAlias a under) field p <;> rfl

theorem clause?_of_column {a : Option String} {field : String} {s : Source} {col : Column}
    (h : b.field field (effectiveAlias a under) = .ok (s, .column col)) (p : Predicate) :
    (Spec.filter a field p).clause? b under = (p.onColumn ⟨s, col⟩).map some := by
  rw [clause?_filter, leafClause, h]
  rfl

/-- The condition of a negation is the opposite one. -/
theorem clause?_neg (s : Spec) : s.neg.clause? b under = (s.clause? b under).map (Option.map Clause.negate) := by
  rw [clause?]
  cases s.clause? b under <;> rfl

end Spec
end Criteria
