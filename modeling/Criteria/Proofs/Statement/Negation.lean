import Criteria.Proofs.Spec.Meaning
import Criteria.Proofs.Statement.Moments
import Mathlib.Data.List.Forall2

/-!
# The laws of negation for clauses

A negated conjunction and the disjunction of the opposites, a negated disjunction and the conjunction of the
opposites, a clause negated twice and the clause: they have the same truth on every row, they name the same columns
of the same sources, and they hold the same values in the same order (`Clause.ByNegation`). So a statement in which
one stands for the other is checked and runs as before (`Statement.ByNegation.run_eq`), also when the moments in
both are changed (`Statement.ByNegation.onMoments`).
-/

namespace Criteria

/-! ## The values of a clause -/

namespace Clause

mutual

/-- The values that are bound for a clause, in order. -/
def parameters : Clause → List Parameter
  | .compare _ s v => [⟨.forValue s.type v, v⟩]
  | .like _ c p => [⟨.forValue c.column.type (.str p), .str p⟩]
  | .between _ c l h => [⟨.forValue c.column.type l, l⟩, ⟨.forValue c.column.type h, h⟩]
  | .member _ c vs => vs.map (⟨.forValues c.column.type vs, ·⟩)
  | .conj cs | .disj cs => parametersOf cs
  | .negation c => parameters c
  | .constant _ _ _ | .isNull _ _ | .related _ | .missing | .decided _ => []

def parametersOf : List Clause → List Parameter
  | [] => []
  | c :: rest => parameters c ++ parametersOf rest

end

/-- What is read off a list of clauses one after another. -/
theorem eq_flatMap {α : Type} {f : Clause → List α} {fs : List Clause → List α} (hnil : fs [] = [])
    (hcons : ∀ c rest, fs (c :: rest) = f c ++ fs rest) (cs : List Clause) : fs cs = cs.flatMap f := by
  induction cs with
  | nil => exact hnil
  | cons c rest ih => rw [hcons, ih, List.flatMap_cons]

theorem parametersOf_eq (cs : List Clause) : parametersOf cs = cs.flatMap parameters :=
  eq_flatMap rfl (fun _ _ => rfl) cs

end Clause

/-- Separators hold no values. -/
theorem bound_separated (separator : String) (parts : List (List Fragment)) :
    (Fragment.separated separator parts).flatMap Fragment.bound =
      parts.flatMap fun fs => fs.flatMap Fragment.bound := by
  induction parts with
  | nil => rfl
  | cons fs rest ih =>
      cases rest with
      | nil => simp [Fragment.separated]
      | cons gs more =>
          simp only [Fragment.separated, List.flatMap_append, List.flatMap_cons, ih]
          rfl

section Layout

variable (d : Dialect)

mutual

/-- What is laid out for a clause binds the values of the clause. -/
theorem bound_layClause (c : Clause) : (layClause d c).flatMap Fragment.bound = c.parameters := by
  match c with
  | .conj cs => rw [layClause, bound_separated, bound_layConjuncts cs, Clause.parameters]
  | .disj cs => rw [layClause, bound_separated, bound_layDisjuncts cs, Clause.parameters]
  | .negation c =>
      rw [layClause, List.flatMap_append, List.flatMap_cons, bound_layClause c]
      simp [Fragment.bound, Clause.parameters]
  | .compare _ _ _ | .like _ _ _ | .between _ _ _ _ => rfl
  | .member _ _ _ => simp [layClause, Fragment.bound, Clause.parameters]
  | .constant _ _ _ | .isNull _ _ | .related _ | .missing | .decided _ => rfl

theorem bound_layConjuncts (cs : List Clause) :
    (layConjuncts d cs).flatMap (fun fs => fs.flatMap Fragment.bound) = Clause.parametersOf cs := by
  match cs with
  | [] => rfl
  | .conj ds :: rest =>
      rw [layConjuncts, List.flatMap_append, bound_layConjuncts ds, bound_layConjuncts rest]
      rfl
  | .disj ds :: rest =>
      rw [layConjuncts, List.flatMap_cons, List.flatMap_append, List.flatMap_cons, bound_separated,
        bound_layDisjuncts ds, bound_layConjuncts rest]
      simp [Fragment.bound, Clause.parametersOf, Clause.parameters]
  | .negation c :: rest | .compare r s v :: rest | .constant n s b :: rest | .isNull n s :: rest
  | .like n col p :: rest | .between n col l h :: rest | .member n col vs :: rest
  | .related s :: rest | .missing :: rest | .decided _ :: rest =>
      exact congr (congrArg _ (bound_layClause _)) (bound_layConjuncts rest)

theorem bound_layDisjuncts (cs : List Clause) :
    (layDisjuncts d cs).flatMap (fun fs => fs.flatMap Fragment.bound) = Clause.parametersOf cs := by
  match cs with
  | [] => rfl
  | .disj ds :: rest =>
      rw [layDisjuncts, List.flatMap_append, bound_layDisjuncts ds, bound_layDisjuncts rest]
      rfl
  | .conj ds :: rest | .negation c :: rest | .compare r s v :: rest | .constant n s b :: rest
  | .isNull n s :: rest | .like n col p :: rest | .between n col l h :: rest
  | .member n col vs :: rest | .related s :: rest | .missing :: rest | .decided _ :: rest =>
      exact congr (congrArg _ (bound_layClause _)) (bound_layDisjuncts rest)

end

theorem bound_layConditions (keyword : String) (cs : List Clause) :
    (layPart keyword (layConditions d cs)).flatMap Fragment.bound = Clause.parametersOf cs := by
  have hconditions : (layConditions d cs).flatMap Fragment.bound = Clause.parametersOf cs := by
    rcases cs with _ | ⟨c, _ | ⟨c', rest⟩⟩
    · rfl
    · simp [layConditions, bound_layClause, Clause.parametersOf]
    · simp only [layConditions, bound_separated, bound_layConjuncts]
  rw [← hconditions]
  cases layConditions d cs <;> rfl

end Layout

/-! ## Clauses under negation -/

namespace Clause

/-- A clause by itself, or both sides of a law of negation. -/
inductive ByNegation : Clause → Clause → Prop
  | refl (c : Clause) : ByNegation c c
  | conj (cs : List Clause) : ByNegation (.negation (.conj cs)) (.disj (cs.map negate))
  | disj (cs : List Clause) : ByNegation (.negation (.disj cs)) (.conj (cs.map negate))
  | twice (c : Clause) : ByNegation (.negation (.negation c)) c

/-! ### What a clause is about -/

theorem sourcesOf_eq (cs : List Clause) : sourcesOf cs = cs.flatMap sources :=
  eq_flatMap rfl (fun _ _ => rfl) cs

theorem columnsOf_eq (cs : List Clause) : columnsOf cs = cs.flatMap columns :=
  eq_flatMap rfl (fun _ _ => rfl) cs

theorem momentsOf_eq (cs : List Clause) : momentsOf cs = cs.flatMap moments :=
  eq_flatMap rfl (fun _ _ => rfl) cs

theorem anyAggregates_eq (cs : List Clause) : anyAggregates cs = cs.any aggregates := by
  induction cs with
  | nil => rfl
  | cons c rest ih => rw [anyAggregates, ih, List.any_cons]

/-- What negation leaves alone: the sources, the columns and the values of a clause, and what it counts. -/
structure SameContent (c d : Clause) : Prop where
  sources : c.sources = d.sources
  columns : c.columns = d.columns
  aggregates : c.aggregates = d.aggregates
  parameters : c.parameters = d.parameters
  moments : c.moments = d.moments

theorem sameContent_negate (c : Clause) : SameContent c.negate c := by
  cases c <;> exact ⟨rfl, rfl, rfl, rfl, rfl⟩

/-- Clauses have the content of their parts. -/
theorem sameContent_negate_all (cs : List Clause) : SameContent (.conj cs) (.conj (cs.map negate)) where
  sources := by
    simp only [sources, sourcesOf_eq, List.flatMap_map, (sameContent_negate _).sources]
  columns := by
    simp only [columns, columnsOf_eq, List.flatMap_map, (sameContent_negate _).columns]
  aggregates := by
    simp only [aggregates, anyAggregates_eq, List.any_map, Function.comp_def,
      (sameContent_negate _).aggregates]
  parameters := by
    simp only [parameters, parametersOf_eq, List.flatMap_map, (sameContent_negate _).parameters]
  moments := by
    simp only [moments, momentsOf_eq, List.flatMap_map, (sameContent_negate _).moments]

namespace ByNegation

variable {c d : Clause}

/-- The laws of negation leave the content alone. -/
theorem sameContent (h : ByNegation c d) : SameContent c d := by
  cases h with
  | refl => exact ⟨rfl, rfl, rfl, rfl, rfl⟩
  | conj cs | disj cs =>
      -- Content does not distinguish the connectives, and a negation has the content of its clause.
      obtain ⟨hsources, hcolumns, haggregates, hparameters, hmoments⟩ := sameContent_negate_all cs
      exact ⟨hsources, hcolumns, haggregates, hparameters, hmoments⟩
  | twice => exact ⟨rfl, rfl, rfl, rfl, rfl⟩

end ByNegation
end Clause

/-- The law of De Morgan holds in three-valued logic. -/
theorem Truth.not_all (ts : List Truth) : (Truth.all ts).not = Truth.any (ts.map Truth.not) := by
  induction ts with
  | nil => rfl
  | cons t rest ih =>
      show (t.and (Truth.all rest)).not = _
      rw [not_and, ih]
      rfl

theorem Truth.not_any (ts : List Truth) : (Truth.any ts).not = Truth.all (ts.map Truth.not) := by
  induction ts with
  | nil => rfl
  | cons t rest ih =>
      show (t.or (Truth.any rest)).not = _
      rw [not_or, ih]
      rfl

namespace Clause.ByNegation

variable {c d : Clause}

/-- **The laws of negation** hold on every row, missing values included. -/
theorem truth_eq (h : ByNegation c d) (db : Database) (group : List Row) (row : Row) :
    Clause.truth db group row c = Clause.truth db group row d := by
  cases h with
  | refl => rfl
  | conj cs =>
      simp only [Clause.truth, truthAll_eq, truthAny_eq, Truth.not_all, List.map_map, Function.comp_def,
        truth_negate]
  | disj cs =>
      simp only [Clause.truth, truthAll_eq, truthAny_eq, Truth.not_any, List.map_map, Function.comp_def,
        truth_negate]
  | twice => simp only [Clause.truth, Truth.not_not]

/-- The laws do not depend on moments. -/
theorem onMoments (h : ByNegation c d) (g k : DateTime → DateTime) :
    ByNegation (c.onMoments g k) (d.onMoments g k) := by
  have hmap : ∀ cs : List Clause, (cs.map Clause.negate).map (Clause.onMoments g k) =
      (cs.map (Clause.onMoments g k)).map Clause.negate := by
    intro cs
    simp only [List.map_map, Function.comp_def, onMoments_negate]
  cases h with
  | refl => exact .refl _
  | conj cs =>
      simp only [Clause.onMoments, allOnMoments_eq, hmap]
      exact .conj _
  | disj cs =>
      simp only [Clause.onMoments, allOnMoments_eq, hmap]
      exact .disj _
  | twice => exact .twice _

end Clause.ByNegation

/-! ## Statements under negation -/

/-- Statements that differ in their conditions on rows only, and there by the laws of negation. -/
structure Statement.ByNegation (s t : Statement) : Prop where
  rest : t = { s with conditions := t.conditions }
  conditions : List.Forall₂ Clause.ByNegation s.conditions t.conditions

namespace Statement.ByNegation

variable {s t : Statement}

theorem refl (s : Statement) : s.ByNegation s where
  rest := rfl
  conditions := List.forall₂_same.mpr fun c _ => .refl c

theorem addCondition (s : Statement) {c d : Clause} (h : Clause.ByNegation c d) :
    (s.addCondition c).ByNegation (s.addCondition d) where
  rest := rfl
  conditions := List.rel_append (List.forall₂_same.mpr fun c _ => .refl c) (.cons h .nil)

/-- What is read off the conditions one by one is the same for both. -/
theorem flatMap_eq {α : Type} {f : Clause → List α} (h : s.ByNegation t)
    (hf : ∀ c d, Clause.ByNegation c d → f c = f d) : s.conditions.flatMap f = t.conditions.flatMap f := by
  have hconditions := h.conditions
  generalize s.conditions = cs at hconditions ⊢
  generalize t.conditions = ds at hconditions ⊢
  induction hconditions with
  | nil => rfl
  | cons hfirst _ ih => rw [List.flatMap_cons, List.flatMap_cons, hf _ _ hfirst, ih]

variable (h : s.ByNegation t)

include h

theorem trees_eq : s.trees = t.trees := by
  have hsources := h.flatMap_eq fun c d hcd => hcd.sameContent.sources
  rw [← Clause.sourcesOf_eq, ← Clause.sourcesOf_eq] at hsources
  rw [h.rest]
  simp only [trees, hsources]

theorem boundParameters_eq : s.boundParameters = t.boundParameters := by
  have hparameters := h.flatMap_eq fun c d hcd => hcd.sameContent.parameters
  rw [← Clause.parametersOf_eq, ← Clause.parametersOf_eq] at hparameters
  rw [Statement.boundParameters_eq, Statement.boundParameters_eq, h.rest]
  simp only [bound_layConditions, hparameters]

/-- Both are refused alike. -/
theorem check_eq : s.check = t.check := by
  have hcolumns := h.flatMap_eq fun c d hcd => hcd.sameContent.columns
  rw [← Clause.columnsOf_eq, ← Clause.columnsOf_eq] at hcolumns
  -- A check looks at the content of the conditions only, which the laws of negation leave alone.
  have haggregates : Clause.anyAggregates s.conditions = Clause.anyAggregates t.conditions := by
    have hall := h.flatMap_eq (f := fun c => [c.aggregates]) fun c d hcd => by
      rw [hcd.sameContent.aggregates]
    have hany : ∀ cs : List Clause, Clause.anyAggregates cs = (cs.flatMap fun c => [c.aggregates]).any id := by
      intro cs
      rw [Clause.anyAggregates_eq, List.any_flatMap]
      simp
    rw [hany, hany, hall]
  have hnames : ∀ cs, t.checkNames cs = s.checkNames cs := by
    intro cs
    simp only [checkNames, firstAmbiguous?, sources, h.trees_eq]
  have hitems : t.items = s.items := by rw [h.rest]
  have hjoins : t.joins = s.joins := by rw [h.rest]
  have hgroup : t.groupConditions = s.groupConditions := by rw [h.rest]
  have haggregate : t.isAggregate = s.isAggregate := by
    rw [h.rest]
    rfl
  unfold check
  simp only [h.boundParameters_eq, hcolumns, haggregates, hnames, hitems, hjoins, hgroup, haggregate]

/-- **Both match the same rows.** -/
theorem matchingRows_eq (db : Database) : s.matchingRows db = t.matchingRows db := by
  have htruth : ∀ row, Clause.truthAll db [row] row s.conditions = Clause.truthAll db [row] row t.conditions := by
    intro row
    have hall := h.flatMap_eq (f := fun c => [Clause.truth db [row] row c]) fun c d hcd => by
      rw [hcd.truth_eq]
    simpa only [Clause.truthAll_eq, ← List.map_eq_flatMap] using congrArg Truth.all hall
  simp only [matchingRows, h.trees_eq, htruth]

/-- Both have the same results. -/
theorem results_eq (db : Database) : s.results db = t.results db := by
  have hgroups : s.groups db = t.groups db := by
    simp only [groups, h.matchingRows_eq db]
    rw [h.rest]
    rfl
  unfold results
  rw [hgroups, h.rest]

/-- **Both run alike.** -/
theorem run_eq (db : Database) : s.run db = t.run db := by
  rw [run, run, h.check_eq, h.results_eq]

theorem onMoments (g k : DateTime → DateTime) : (s.onMoments g k).ByNegation (t.onMoments g k) where
  rest := by
    rw [h.rest]
    rfl
  conditions := by
    show List.Forall₂ _ (s.conditions.map _) (t.conditions.map _)
    rw [List.forall₂_map_left_iff, List.forall₂_map_right_iff]
    exact h.conditions.imp fun c d hcd => hcd.onMoments g k

/-- Both hold the same moments, so that they are rounded alike. -/
theorem moments_eq : s.moments = t.moments := by
  have hmoments := h.flatMap_eq fun c d hcd => hcd.sameContent.moments
  rw [← Clause.momentsOf_eq, ← Clause.momentsOf_eq] at hmoments
  rw [moments, moments, hmoments, h.rest]

end Statement.ByNegation
end Criteria
