import Criteria.Proofs.Repository.Likeness
import Criteria.Proofs.Spec.Negation

/-!
# The laws of negation for repositories

De Morgan's laws and the law of double negation hold for trees of any kind: with joins and other changes in
them, with nodes that say nothing, and with conditions that are neither true nor false of a row. The queries
built for the two sides differ in their conditions on rows only, and there by the laws for clauses. No modifier
tells such queries apart, rounding included (`Modifier.apply_alike`), and none of them finds anything else than
the other (`de_morgan`).
-/

namespace Criteria

/-- Statements related by the laws of negation are not told apart. -/
theorem Statement.likeness_byNegation : Likeness ByNegation where
  items h := by rw [h.rest]
  run h db := h.run_eq db
  moments h := h.moments_eq
  onMoments h g k := h.onMoments g k

namespace Repository

variable (repo : Repository) {s t : Spec}

theorem builder_byNegation (h : s.ByNegation t) (under : Option String) :
    RunsAlike (Builder.Alike Statement.ByNegation) (repo.builder (.spec s) under)
      (repo.builder (.spec t) under) :=
  h.run_apply (effectiveAlias under repo.rootAlias) (Builder.ofEntity repo.entity _)

/-- Specifications that can stand for each other in a repository. -/
structure Interchangeable (s t : Spec) : Prop where
  /-- They are built alike: with the same aliases, events and changes of the statement, or up to the same error.
  Only the conditions on rows are said differently. -/
  builds : ∀ under,
    (repo.builder (.spec s) under).1 = (repo.builder (.spec t) under).1 ∧
    let b := (repo.builder (.spec s) under).2
    let c := (repo.builder (.spec t) under).2
    c = b.changed fun st => { st with conditions := c.statement.conditions }
  /-- The same rows match, and the database answers alike or refuses alike. -/
  matchesRows : ∀ under db,
    (repo.builder (.spec s) under).2.statement.matchingRows db =
      (repo.builder (.spec t) under).2.statement.matchingRows db
  answers : ∀ under db,
    (repo.builder (.spec s) under).2.statement.run db = (repo.builder (.spec t) under).2.statement.run db
  /-- The same is reported and noted while a query is built. -/
  journal : ∀ m, (repo.query (.spec s) m).2 = (repo.query (.spec t) m).2
  /-- The same is found in every session, whatever a modifier does to the query. -/
  finds : ∀ fetch m session,
    (runFrom session (repo.find fetch (.spec s) m)).1 = (runFrom session (repo.find fetch (.spec t) m)).1

/-- Specifications related by negation can stand for each other: statements related by it run alike. -/
theorem interchangeable (h : s.ByNegation t) : repo.Interchangeable s t where
  builds under := by
    obtain ⟨houtcome, hbuilders⟩ := repo.builder_byNegation h under
    refine ⟨houtcome, ?_⟩
    simp only [Builder.changed]
    rw [← hbuilders.statement.rest]
    exact hbuilders.rest
  matchesRows under db := (repo.builder_byNegation h under).2.statement.matchingRows_eq db
  answers under db := (repo.builder_byNegation h under).2.statement.run_eq db
  journal m := (repo.query_alike Statement.likeness_byNegation (repo.builder_byNegation h none) m).2
  finds := repo.find_alike Statement.likeness_byNegation (repo.builder_byNegation h none)

/-- **De Morgan's laws and double negation.** The negation of a conjunction can stand for the disjunction of the
negations, the negation of a disjunction for the conjunction of the negations, and a specification negated
twice for the specification, whatever the children are. -/
theorem de_morgan (cs : List Spec) (c : Spec) :
    repo.Interchangeable (.neg (.conj cs)) (.disj (cs.map .neg)) ∧
      repo.Interchangeable (.neg (.disj cs)) (.conj (cs.map .neg)) ∧
      repo.Interchangeable (.neg (.neg c)) c :=
  ⟨repo.interchangeable (Spec.byNegation_neg_conj cs), repo.interchangeable (Spec.byNegation_neg_disj cs),
    repo.interchangeable (Spec.byNegation_neg_neg c)⟩

end Repository
end Criteria
