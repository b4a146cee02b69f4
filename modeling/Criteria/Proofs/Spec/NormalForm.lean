import Criteria.Proofs.Spec.Change
import Criteria.Proofs.Spec.Place

/-!
# The normal form of applying a specification

However a tree is built, applying it is making the changes in it one after another, depth first and from left to
right, and then adding at most one condition on rows (`Spec.apply_eq`). The nodes around a change do not matter. A
tree that fails leaves the builder as it is after the changes before the one that fails, without a condition on rows
(`Spec.apply_in_steps`). So children that only filter and children that only modify can change places.
-/

namespace Criteria

/-! ## Steps -/

namespace Change

/-- The step by which a builder makes a change. -/
def step : Change → Building Unit
  | .join k under f n => Builder.join f n under k.isOuter
  | .limit count => Builder.limit count
  | .offset count => Builder.offset count
  | .orderBy under f d => do
    let k ← Builder.ask fun b => Spec.sortKey b under f d
    Builder.change fun s => s.addSorting [k]
  | .groupBy under f => do
    let t ← Builder.ask fun b => b.term f under
    Builder.change fun s => s.addGrouping [t]
  | .distinct => Builder.distinct
  | .having under child => Spec.addClause Statement.addGroupCondition under child
  | .countRows => Builder.change Statement.countRows

/-- The steps of several changes, one after another. -/
def steps (cs : List Change) : Building Unit := cs.forM step

theorem steps_cons (c : Change) (cs : List Change) :
    steps (c :: cs) = (do c.step; steps cs) := List.forM_cons

theorem steps_append (cs ds : List Change) : steps (cs ++ ds) = (do steps cs; steps ds) :=
  List.forM_append

theorem steps_singleton (c : Change) : steps [c] = c.step := by
  rw [steps_cons]
  exact bind_pure_unit

/-- A step makes its change, or fails and leaves the builder alone. -/
theorem run_step (b : Builder) (c : Change) :
    runFrom b c.step =
      match c.apply b with
      | .ok b' => (.ok (), b')
      | .error f => (.error f, b) := by
  cases c with
  | having under child => exact Spec.runFrom_addClause _ under child b
  | distinct | countRows => rfl
  | join k under f n | limit count | offset count | orderBy under f d | groupBy under f =>
      exact Spec.runFrom_ask_bind b _ _ _ fun _ => rfl

/-- Steps run as the changes that they make. -/
theorem run_steps (b : Builder) (cs : List Change) : runFrom b (steps cs) = applyAll b cs := by
  induction cs generalizing b with
  | nil => rfl
  | cons c rest ih =>
      rw [steps_cons, runFrom_bind, run_step, applyAll]
      cases c.apply b with
      | error f => rfl
      | ok b' => exact ih b'

theorem run_step_eq_error {b : Builder} {c : Change} {f : Fault} :
    runFrom b c.step = (.error f, b) ↔ c.apply b = .error f := by
  rw [run_step]
  cases c.apply b <;> simp

/-- No change touches the conditions on rows. -/
theorem conditions_of_apply {b b' : Builder} {c : Change} (h : c.apply b = .ok b') :
    b'.statement.conditions = b.statement.conditions := by
  cases c with
  | having under child =>
      obtain ⟨o, -, rfl⟩ := map_eq_ok.mp h
      cases o <;> rfl
  | distinct | countRows =>
      cases h
      rfl
  | join k under f n | limit n | offset n | orderBy under f d | groupBy under f =>
      obtain ⟨x, -, rfl⟩ := map_eq_ok.mp h
      rfl

theorem conditions_of_applyAll {b b' : Builder} {cs : List Change} {outcome : Except Fault Unit}
    (h : applyAll b cs = (outcome, b')) : b'.statement.conditions = b.statement.conditions := by
  refine applyAll_preserves (motive := fun b₁ => b₁.statement.conditions = b.statement.conditions) ?_ h rfl
  intro c _ b₁ b₂ hc hb₁
  rw [conditions_of_apply hc, hb₁]

end Change

/-! ## Trees as steps -/

namespace Spec

mutual

/-- Modifying by a tree is making its changes, one after another. -/
theorem modify_eq (under : String) (s : Spec) : s.modify under = Change.steps (s.changes under) := by
  match s with
  | .conj cs | .disj cs => exact modifyAll_eq under cs
  | .neg c => exact modify_eq under c
  | .named _ a c => exact modify_eq (effectiveAlias a under) c
  | .countOf (some c) =>
      rw [modify, changes, Change.steps_cons, modify_eq under c]
      rfl
  | .having c =>
      rw [modify, changes, Change.steps_append, Change.steps_singleton, modify_eq under c]
      rfl
  | .join k a f n | .limit n | .offset n | .orderBy a f d | .groupBy a f | .distinct | .countOf none =>
      rw [changes, Change.steps_singleton]
      rfl
  | .filter _ _ _ | .countAbove _ _ _ _ | .idle | .base _ | .namedForeign _ _ _ => rfl

theorem modifyAll_eq (under : String) (cs : List Spec) :
    modifyAll under cs = Change.steps (changesAll under cs) := by
  match cs with
  | [] => rfl
  | s :: rest => rw [modifyAll, changesAll, Change.steps_append, modify_eq under s, modifyAll_eq under rest]

end

/-- **The normal form.** Applying a tree is making its changes and then adding its condition on rows. -/
theorem apply_eq (under : String) (s : Spec) :
    s.apply under = (do Change.steps (s.changes under); addClause Statement.addCondition under s) := by
  rw [apply, modify_eq]

/-! ## Children in another order -/

theorem modify_of_not_isModifier {s : Spec} (h : s.isModifier = false) (under : String) :
    s.modify under = pure () := by
  cases s <;> first | rfl | cases h

theorem clause?_of_not_isFilter {s : Spec} (h : s.isFilter = false) (b : Builder) (under : String) :
    s.clause? b under = .ok none := by
  cases s <;> first | rfl | cases h

/-- Only modifiers count among the children where changes are made. -/
theorem modifyAll_filter (under : String) (cs : List Spec) :
    modifyAll under (cs.filter isModifier) = modifyAll under cs := by
  induction cs with
  | nil => rfl
  | cons c rest ih =>
      rw [List.filter_cons]
      cases hc : c.isModifier with
      | true =>
          show modifyAll under (c :: rest.filter isModifier) = _
          rw [modifyAll, modifyAll, ih]
      | false =>
          show modifyAll under (rest.filter isModifier) = _
          rw [modifyAll, modify_of_not_isModifier hc, pure_bind, ih]

/-- Only filters count where conditions are built. -/
theorem clauses_filter (b : Builder) (under : String) (cs : List Spec) :
    clauses b under (cs.filter isFilter) = clauses b under cs := by
  induction cs with
  | nil => rfl
  | cons c rest ih =>
      rw [List.filter_cons]
      cases hc : c.isFilter with
      | true =>
          show clauses b under (c :: rest.filter isFilter) = _
          rw [clauses, clauses, ih]
      | false =>
          show clauses b under (rest.filter isFilter) = _
          rw [clauses, clause?_of_not_isFilter hc, ih]
          cases clauses b under rest <;> rfl

section Reordered

variable {cs ds : List Spec} (hmodifiers : cs.filter isModifier = ds.filter isModifier)
  (hfilters : cs.filter isFilter = ds.filter isFilter)

include hmodifiers hfilters

/-- Children with the same modifiers in order and the same filters in order have the same effect. -/
theorem conj_sameEffect_of_filter : (conj cs).SameEffect (conj ds) where
  modify under := by rw [modify, modify, ← modifyAll_filter, hmodifiers, modifyAll_filter]
  clause b under := by rw [clause?, clause?, ← clauses_filter, hfilters, clauses_filter]

theorem disj_sameEffect_of_filter : (disj cs).SameEffect (disj ds) where
  modify under := by rw [modify, modify, ← modifyAll_filter, hmodifiers, modifyAll_filter]
  clause b under := by rw [clause?, clause?, ← clauses_filter, hfilters, clauses_filter]

end Reordered

/-- A child that only filters and one that only modifies can change places. -/
theorem filter_swapped {p : Spec → Bool} {s t : Spec} (h : p s = false ∨ p t = false) (xs ys : List Spec) :
    (xs ++ s :: t :: ys).filter p = (xs ++ t :: s :: ys).filter p := by
  simp only [List.filter_append, List.filter_cons]
  rcases h with h | h <;> simp [h]

/-! ## Success and failure -/

/-- What applying a specification comes to. -/
structure AppliesInSteps (s : Spec) (under : String) : Prop where
  /-- Its changes are made in order, and then its condition on rows is added. -/
  program : s.apply under = (do Change.steps (s.changes under); addClause Statement.addCondition under s)
  /-- It succeeds if all changes can be made and its condition can be built behind them. -/
  succeeds : ∀ b b₂, runFrom b (s.apply under) = (.ok (), b₂) ↔
    ∃ b₁ c, runFrom b (Change.steps (s.changes under)) = (.ok (), b₁) ∧ s.clause? b₁ under = .ok c ∧
      b₂ = b₁.changed fun st => st.addOptional Statement.addCondition c
  /-- It fails with a change and leaves the builder as it is after the changes before, or with its condition and
  leaves it as it is after all changes. -/
  fails : ∀ b b' f, runFrom b (s.apply under) = (.error f, b') ↔
    (∃ before c after, s.changes under = before ++ c :: after ∧
      runFrom b (Change.steps before) = (.ok (), b') ∧ runFrom b' c.step = (.error f, b')) ∨
    runFrom b (Change.steps (s.changes under)) = (.ok (), b') ∧ s.clause? b' under = .error f
  /-- At most one condition on rows is added, and none on failure. -/
  rows : ∀ b b' outcome, runFrom b (s.apply under) = (outcome, b') →
    b'.statement.conditions = b.statement.conditions ∨
      outcome = .ok () ∧ ∃ c, b'.statement.conditions = b.statement.conditions ++ [c]

/-- Every specification is applied step by step. -/
theorem applies_in_steps (s : Spec) (under : String) : s.AppliesInSteps under where
  program := apply_eq under s
  succeeds b b₂ := by
    rw [Change.run_steps]
    exact run_apply_eq_ok
  fails b b' f := by
    rw [run_apply_eq_error, Change.applyAll_eq_error]
    simp only [Change.run_steps, Change.run_step_eq_error]
  rows b b' outcome h := by
    cases outcome with
    | error f =>
        rcases run_apply_eq_error.mp h with hall | ⟨hall, -⟩
        · exact .inl (Change.conditions_of_applyAll hall)
        · exact .inl (Change.conditions_of_applyAll hall)
    | ok u =>
        obtain ⟨b₁, c, hall, -, rfl⟩ := run_apply_eq_ok.mp h
        have hkept := Change.conditions_of_applyAll hall
        cases c with
        | none => exact .inl hkept
        | some c => exact .inr ⟨rfl, c, congrArg (· ++ [c]) hkept⟩

/-- **Applying a specification is a sequence of steps.** At every place of a tree, a child that only filters and one
that only modifies can change places without any effect. -/
theorem apply_in_steps (s : Spec) (under : String) :
    s.AppliesInSteps under ∧
    ∀ (place : Place) (xs ys : List Spec) (f m : Spec), f.isModifier = false → m.isFilter = false →
      MadeAlike (fun s t => ∀ under, s.apply under = t.apply under)
        (place.fill (.spec (.conj (xs ++ f :: m :: ys)))) (place.fill (.spec (.conj (xs ++ m :: f :: ys)))) ∧
      MadeAlike (fun s t => ∀ under, s.apply under = t.apply under)
        (place.fill (.spec (.disj (xs ++ f :: m :: ys)))) (place.fill (.spec (.disj (xs ++ m :: f :: ys)))) := by
  refine ⟨s.applies_in_steps under, ?_⟩
  intro place xs ys f m hf hm
  have hmodifiers : (xs ++ f :: m :: ys).filter isModifier = (xs ++ m :: f :: ys).filter isModifier :=
    filter_swapped (.inl hf) xs ys
  have hfilters : (xs ++ f :: m :: ys).filter isFilter = (xs ++ m :: f :: ys).filter isFilter :=
    filter_swapped (.inr hm) xs ys
  constructor
  · apply MadeAlike.mono (fun _ _ => SameEffect.apply)
    exact place.fill_congr SameEffect.congruence (conj_sameEffect_of_filter hmodifiers hfilters)
      fun _ => admittedAlike_of_isFilter rfl rfl
  · apply MadeAlike.mono (fun _ _ => SameEffect.apply)
    exact place.fill_congr SameEffect.congruence (disj_sameEffect_of_filter hmodifiers hfilters)
      fun _ => admittedAlike_of_isFilter rfl rfl

/-- A condition on a joined entity can stand before the join. -/
theorem condition_before_join :
    let title : Spec := .filter (some "p") "title" (.isNull true)
    let posts : Spec := .join .join none "posts" "p"
    title.isModifier = false ∧ posts.isFilter = false ∧
      (Spec.conj [title, posts]).apply "e" = (Spec.conj [posts, title]).apply "e" := by
  intro title posts
  refine ⟨rfl, rfl, ?_⟩
  obtain ⟨-, hswap⟩ := apply_in_steps title "e"
  rcases (hswap [] [] [] title posts rfl rfl).1 with ⟨f, hs, -⟩ | ⟨s, t, hs, ht, happly⟩
  · cases hs
  · cases hs
    cases ht
    exact happly "e"

end Spec
end Criteria
