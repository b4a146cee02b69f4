import Criteria.Proofs.Query.Options
import Criteria.Proofs.Spec.Moments

/-!
# What rounding reaches

Rounding a query moves the moments that its statement compares with to the grid, whatever node of the
specification they come from, and leaves all else as it is (`rounding_reaches_compared`). It does not reach into
lists: a moment that a field is looked up in a list with keeps its exact value. So the rounded query is the one
built from a specification whose moments are rounded beforehand exactly if those in its lists are on the grid.
-/

namespace Criteria

/-! ## Queries that differ in their moments -/

/-- Queries of one text that run alike, and whose parameters differ in those that are moments only. -/
structure Query.ChangedBy (g : DateTime → DateTime) (q q' : Query) : Prop where
  text : ∀ d, (q'.statement.sql d).text = (q.statement.sql d).text
  parameters : ∀ d, (q'.statement.sql d).parameters =
    (q.statement.sql d).parameters.map fun p => (p.1, p.2.onMoment g)
  mode : q'.mode = q.mode
  options : q'.options = q.options
  inSession : q'.inSession = q.inSession
  logSql : q'.logSql = q.logSql

theorem Query.changedBy_onMoments (g : DateTime → DateTime) (q : Query) :
    q.ChangedBy g { q with statement := q.statement.onMoments g id } where
  text d := (q.statement.sql_onMoments d g).1
  parameters d := (q.statement.sql_onMoments d g).2
  mode := rfl
  options := rfl
  inSession := rfl
  logSql := rfl

namespace Repository

variable {repo : Repository} {s : Spec} {q : Query} {f : Fault}

/-! ## Rounding before and after building -/

/-- A tree with other moments builds what the tree builds, with these moments. -/
theorem builder_onMoments (repo : Repository) (g h : DateTime → DateTime) (s : Spec)
    (under : Option String) :
    repo.builder (.spec (s.onMoments g h)) under =
      ((repo.builder (.spec s) under).1, (repo.builder (.spec s) under).2.onMoments g h) :=
  Spec.apply_onMoments g h (Builder.ofEntity repo.entity (effectiveAlias under repo.rootAlias)) _ s

/-- A tree with other moments makes the query of the tree, with these moments. -/
theorem query_onMoments (g h : DateTime → DateTime) (hq : (repo.query (.spec s) none).1 = .ok q) :
    (repo.query (.spec (s.onMoments g h)) none).1 =
      .ok { q with statement := q.statement.onMoments g h } := by
  have hbuilder := repo.builder_onMoments g h s none
  rcases hb : repo.builder (.spec s) none with ⟨f | u, b⟩
  · rw [query_of_builder_error none hb] at hq
    cases hq
  · rw [hb] at hbuilder
    have hplain := query_of_builder .object hb
    obtain rfl := Except.ok.inj (hplain.symm.trans hq)
    exact query_of_builder .object hbuilder

/-- A query is rounded after it is built. -/
theorem query_round (spec : Operand) (seconds : Value) :
    (repo.query spec (some (.round seconds))).1 =
      (repo.query spec none).1.bind fun q =>
        (q.statement.mapValuesM (roundBound seconds)).map fun st => { q with statement := st } := by
  rw [query_eq, query_eq]
  rcases repo.builder spec none with ⟨f | u, b⟩
  · rfl
  · have hadjust : adjust (some (.round seconds)) = Modifier.apply (.round seconds) := rfl
    have hnone : adjust none = pure () := rfl
    simp only [hadjust, hnone, Modifier.run_round, runFrom_pure, finished, Except.map, Except.bind]
    cases (repo.started b.statement).statement.mapValuesM (roundBound seconds) <;> rfl

/-- Where every moment that is compared with can be rounded, rounding is done by changing them. -/
theorem mapM_roundMoment {seconds : Value} {ts : List DateTime}
    (h : ∀ t ∈ ts, ∃ r, roundMoment seconds t = .ok r) :
    ts.mapM (roundMoment seconds) = .ok (ts.map (rounded seconds)) := by
  refine mapM_eq_map fun t ht => ?_
  obtain ⟨r, hr⟩ := h t ht
  rw [roundMoment_eq_rounded hr, hr]

/-- A query whose moments can be rounded is rounded to the query of the tree with the compared moments rounded
beforehand. -/
theorem query_round_eq {seconds : Value} (hq : (repo.query (.spec s) none).1 = .ok q)
    (h : ∀ t ∈ q.statement.moments, ∃ r, roundMoment seconds t = .ok r) :
    (repo.query (.spec s) (some (.round seconds))).1 =
      (repo.query (.spec (s.onMoments (rounded seconds) id)) none).1 := by
  rw [query_round, hq, query_onMoments _ _ hq]
  simp only [Except.bind, Statement.mapValuesM_roundBound, mapM_roundMoment h]
  rfl

/-- What rounding makes, if it makes anything, is that query. -/
theorem query_of_round {seconds : Value} {q' : Query}
    (h : (repo.query (.spec s) (some (.round seconds))).1 = .ok q') :
    (repo.query (.spec (s.onMoments (rounded seconds) id)) none).1 = .ok q' := by
  rw [query_round] at h
  obtain ⟨q, hq, h⟩ := bind_eq_ok.mp h
  rw [Statement.mapValuesM_roundBound] at h
  obtain ⟨st, hst, rfl⟩ := map_eq_ok.mp h
  obtain ⟨-, -, rfl⟩ := map_eq_ok.mp hst
  exact query_onMoments _ _ hq

/-- **Rounding reaches every moment that is compared with, and no other.** What cannot be built without rounding
cannot be built with it, for the same reason. Else rounding fails with the first of these moments that cannot be
rounded, and where all of them can be, it makes the query that is built from the tree with these moments
rounded beforehand: of the same text, form and options, with the moments among its parameters rounded. Moments
in lists keep their exact values, so it is the query of the tree with all moments rounded beforehand exactly if
those in lists are on the grid. -/
theorem rounding_reaches_compared (repo : Repository) (s : Spec) (seconds : Value) :
    (∀ f, (repo.query (.spec s) none).1 = .error f →
      (repo.query (.spec s) (some (.round seconds))).1 = .error f) ∧
    ∀ q, (repo.query (.spec s) none).1 = .ok q →
      (∀ f, q.statement.moments.mapM (roundMoment seconds) = .error f →
        (repo.query (.spec s) (some (.round seconds))).1 = .error f) ∧
      ((∀ t ∈ q.statement.moments, ∃ r, roundMoment seconds t = .ok r) →
        ∃ q', (repo.query (.spec s) (some (.round seconds))).1 = .ok q' ∧
          q.ChangedBy (rounded seconds) q' ∧
          (repo.query (.spec (s.onMoments (rounded seconds) id)) none).1 = .ok q' ∧
          ((repo.query (.spec (s.onMoments (rounded seconds) (rounded seconds))) none).1 = .ok q' ↔
            ∀ t ∈ q.statement.listedMoments, rounded seconds t = t)) := by
  refine ⟨fun f hf => ?_, fun q hq => ⟨fun f hf => ?_, fun hround => ?_⟩⟩
  · rw [query_round, hf]
    rfl
  · rw [query_round, hq]
    simp only [Except.bind, Statement.mapValuesM_roundBound, hf]
    rfl
  · -- Rounding the built statement and building the rounded tree come to the same statement.
    have hearly := query_onMoments (rounded seconds) id hq
    refine ⟨_, (query_round_eq hq hround).trans hearly, q.changedBy_onMoments _, hearly, ?_⟩
    rw [query_onMoments _ _ hq, Except.ok.injEq, Query.mk.injEq]
    simp only [and_true, Statement.onMoments_eq_iff, id]

/-- Of two equal moments the one that is compared with is rounded, and the one in a list is not. -/
theorem listed_moment_kept :
    let t : DateTime := ⟨1714558663000000, none, by decide, by decide⟩
    let r : DateTime := ⟨1714557600000000, none, by decide, by decide⟩
    let tree (v w : DateTime) : Operand := .spec (.conj
      [.filter none "created_at" (.compare true .ge (.dateTime v)),
        .filter none "created_at" (.member false [.dateTime w])])
    ∃ q', (Repository.query { entity := .user } (tree t t) (some (.round (.int 3600)))).1 = .ok q' ∧
      q'.statement.moments = [r] ∧ q'.statement.listedMoments = [t] ∧
      (Repository.query { entity := .user } (tree r t) none).1 = .ok q' ∧
      (Repository.query { entity := .user } (tree r r) none).1 ≠ .ok q' := by
  intro t r tree
  have hr : roundMoment (.int 3600) t = .ok r := rfl
  obtain ⟨-, hbuilt⟩ := rounding_reaches_compared { entity := .user } (.conj
    [.filter none "created_at" (.compare true .ge (.dateTime t)),
      .filter none "created_at" (.member false [.dateTime t])]) (.int 3600)
  obtain ⟨-, hrounded⟩ := hbuilt _ rfl
  obtain ⟨q', hq', -, hearly, hlists⟩ := hrounded fun u hu => ⟨r, by
    obtain rfl := List.mem_singleton.mp hu
    exact hr⟩
  obtain rfl := Except.ok.inj hearly
  refine ⟨_, hq', rfl, rfl, rfl, fun h => ?_⟩
  have hgrid := hlists.mp h t (List.mem_singleton.mpr rfl)
  rw [roundMoment_eq_rounded hr] at hgrid
  exact absurd hgrid (by decide)

end Repository
end Criteria
