import Criteria.Proofs.Spec.Change
import Criteria.Proofs.Statement.Negation

/-!
# The laws of negation for specifications

The two sides of a law make the same changes, since changes pass through negation and connectives untouched. Their
conditions are built or refused alike, absent alike, and else related by the law for clauses (`Spec.ByNegation`):
a node without a condition is left out on both sides, and a single condition that remains stands for itself. So
the two leave builders that differ in the conditions on rows only (`Spec.ByNegation.run_apply`).
-/

namespace Criteria

/-! ## Conditions -/

/-- Conditions that are refused alike, absent alike or related by the laws of negation. -/
inductive ConditionsByNegation : Except Fault (Option Clause) → Except Fault (Option Clause) → Prop
  | refused (f : Fault) : ConditionsByNegation (.error f) (.error f)
  | absent : ConditionsByNegation (.ok none) (.ok none)
  | present {c d : Clause} (h : Clause.ByNegation c d) : ConditionsByNegation (.ok (some c)) (.ok (some d))

/-- Negation is undone by negation, except that it wraps what has no flipped form twice. -/
theorem Clause.byNegation_negate_negate (c : Clause) : ByNegation c.negate.negate c := by
  cases c with
  | compare r s v =>
      rw [negate, negate, Relation.flip_flip]
      exact .refl _
  | constant n s b | isNull n s | like n col p | between n col l h | member n col vs =>
      rw [negate, negate, Bool.not_not]
      exact .refl _
  | decided b =>
      rw [negate, negate, Bool.not_not]
      exact .refl _
  | related s | missing | conj cs | disj cs | negation c => exact .twice _

/-- The conditions of a conjunction, negated together or one by one. -/
theorem ConditionsByNegation.combine_conj (cs : List Clause) :
    ConditionsByNegation (.ok ((Spec.combine .conj cs).map Clause.negate))
      (.ok (Spec.combine .disj (cs.map Clause.negate))) := by
  rcases cs with _ | ⟨c, _ | ⟨d, rest⟩⟩
  · exact .absent
  · exact .present (.refl _)
  · exact .present (.conj _)

theorem ConditionsByNegation.combine_disj (cs : List Clause) :
    ConditionsByNegation (.ok ((Spec.combine .disj cs).map Clause.negate))
      (.ok (Spec.combine .conj (cs.map Clause.negate))) := by
  rcases cs with _ | ⟨c, _ | ⟨d, rest⟩⟩
  · exact .absent
  · exact .present (.refl _)
  · exact .present (.disj _)

/-! ## Trees -/

namespace Spec

/-- Specifications that make the same changes, with conditions related by the laws of negation. -/
structure ByNegation (s t : Spec) : Prop where
  changes : ∀ under, s.changes under = t.changes under
  conditions : ∀ b under, ConditionsByNegation (s.clause? b under) (t.clause? b under)

theorem changesAll_map_neg (under : String) (cs : List Spec) :
    changesAll under (cs.map .neg) = changesAll under cs := by
  induction cs with
  | nil => rfl
  | cons c rest ih => rw [List.map_cons, changesAll, changesAll, ih, changes]

/-- What has no condition has none when it is negated. -/
theorem clauses_map_neg (b : Builder) (under : String) (cs : List Spec) :
    clauses b under (cs.map .neg) = (clauses b under cs).map (List.map Clause.negate) := by
  induction cs with
  | nil => rfl
  | cons c rest ih =>
      rw [List.map_cons, clauses, clauses, clause?, ih]
      rcases c.clause? b under with f | _ | d
      · rfl
      · cases clauses b under rest <;> rfl
      · cases clauses b under rest <;> rfl

/-- A negated conjunction is the disjunction of the negations. -/
theorem byNegation_neg_conj (cs : List Spec) : ByNegation (.neg (.conj cs)) (.disj (cs.map .neg)) where
  changes under := (changesAll_map_neg under cs).symm
  conditions b under := by
    simp only [clause?, clauses_map_neg]
    cases clauses b under cs with
    | error f => exact .refused f
    | ok ds => exact .combine_conj ds

/-- A negated disjunction is the conjunction of the negations. -/
theorem byNegation_neg_disj (cs : List Spec) : ByNegation (.neg (.disj cs)) (.conj (cs.map .neg)) where
  changes under := (changesAll_map_neg under cs).symm
  conditions b under := by
    simp only [clause?, clauses_map_neg]
    cases clauses b under cs with
    | error f => exact .refused f
    | ok ds => exact .combine_disj ds

/-- Two negations cancel out. -/
theorem byNegation_neg_neg (s : Spec) : ByNegation (.neg (.neg s)) s where
  changes _ := rfl
  conditions b under := by
    simp only [clause?]
    rcases s.clause? b under with f | _ | c
    · exact .refused f
    · exact .absent
    · exact .present c.byNegation_negate_negate

end Spec

/-! ## Builders -/

/-- **Both sides of a law are applied alike.** -/
theorem Spec.ByNegation.run_apply {s t : Spec} (h : s.ByNegation t) (under : String) (b : Builder) :
    RunsAlike (Builder.Alike Statement.ByNegation) (runFrom b (s.apply under)) (runFrom b (t.apply under)) := by
  rw [Spec.run_apply, Spec.run_apply, h.changes under]
  rcases Change.applyAll b (t.changes under) with ⟨f | u, b₁⟩
  · exact ⟨rfl, b₁.alike_refl .refl⟩
  · have hconditions := h.conditions b₁ under
    simp only
    generalize s.clause? b₁ under = x at hconditions ⊢
    generalize t.clause? b₁ under = y at hconditions ⊢
    cases hconditions with
    | refused f => exact ⟨rfl, b₁.alike_refl .refl⟩
    | absent => exact ⟨rfl, Builder.alike_refl .refl _⟩
    | present hcd => exact ⟨rfl, rfl, .addCondition b₁.statement hcd⟩

end Criteria
