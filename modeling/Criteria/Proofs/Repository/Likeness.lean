import Criteria.Proofs.Repository.Rounding

/-!
# Statements that queries do not tell apart

A query shows its statement in three ways: it runs it, gives its items a form, and rounds the moments in it. A
relation of statements that all three respect (`Statement.Likeness`) is respected by everything that is done to a
query: modifiers of any kind keep it (`Modifier.apply_alike`), and queries built on related statements find the same
(`Repository.find_alike`).
-/

namespace Criteria

/-! ## Related statements and queries -/

/-- A relation of statements that run alike and whose moments can be changed alike. -/
structure Statement.Likeness (R : Statement → Statement → Prop) : Prop where
  items {s t : Statement} (h : R s t) : s.items = t.items
  run {s t : Statement} (h : R s t) (db : Database) : s.run db = t.run db
  moments {s t : Statement} (h : R s t) : s.moments = t.moments
  onMoments {s t : Statement} (h : R s t) (g k : DateTime → DateTime) : R (s.onMoments g k) (t.onMoments g k)

/-- Queries that differ in their statements only, and there by the relation. -/
structure Query.Alike (R : Statement → Statement → Prop) (q r : Query) : Prop where
  rest : r = { q with statement := r.statement }
  statement : R q.statement r.statement

/-- Queries that are refused alike or related. -/
inductive QueriesAlike (R : Statement → Statement → Prop) : Except Fault Query → Except Fault Query → Prop
  | refused (f : Fault) : QueriesAlike R (.error f) (.error f)
  | built {q r : Query} (h : q.Alike R r) : QueriesAlike R (.ok q) (.ok r)

variable {R : Statement → Statement → Prop}

/-! ## What is loaded -/

namespace Query.Alike

variable {q r : Query}

theorem loaded_eq (hR : Statement.Likeness R) (h : q.Alike R r) (s : Session) : q.loaded s = r.loaded s := by
  have hrun := hR.run h.statement s.database
  rw [loaded, loaded, h.rest, hrun]
  rfl

/-- Both have the results of one form. -/
theorem select_eq (hR : Statement.Likeness R) (h : q.Alike R r) (f : Fetch) (rows : List (List Element)) :
    f.select q.mode (hydrate q.mode q.statement.items rows) =
      f.select r.mode (hydrate r.mode r.statement.items rows) := by
  have hitems : q.statement.items = r.statement.items := hR.items h.statement
  have hmode : r.mode = q.mode := by rw [h.rest]
  rw [hitems, hmode]

end Query.Alike

/-! ## Modifiers -/

namespace Modifier

/-- A change of what is not the statement. -/
theorem change_alike {q r : Query} (h : q.Alike R r) {f : Query → Query}
    (hf : ∀ q st, f { q with statement := st } = { f q with statement := st })
    (hkeep : ∀ q, (f q).statement = q.statement) :
    RunsAlike (Query.Alike R) (runFrom q (change f)) (runFrom r (change f)) := by
  refine ⟨rfl, ?_, ?_⟩
  · show f r = { f q with statement := (f r).statement }
    rw [hkeep, h.rest]
    exact hf q r.statement
  · show R (f q).statement (f r).statement
    rw [hkeep, hkeep]
    exact h.statement

/-- Rounding moves the same moments on both sides. -/
theorem round_alike (hR : Statement.Likeness R) {q r : Query} (h : q.Alike R r) (seconds : Value) :
    RunsAlike (Query.Alike R) (runFrom q (apply (.round seconds))) (runFrom r (apply (.round seconds))) := by
  simp only [run_round, Statement.mapValuesM_roundBound, hR.moments h.statement]
  cases r.statement.moments.mapM (roundMoment seconds) with
  | error f => exact ⟨rfl, h⟩
  | ok ts =>
      refine ⟨rfl, ?_, hR.onMoments h.statement _ _⟩
      rw [h.rest]
      rfl

mutual

/-- What a modifier does is the same on both sides. -/
theorem apply_alike (hR : Statement.Likeness R) {q r : Query} (h : q.Alike R r) (m : Modifier) :
    RunsAlike (Query.Alike R) (runFrom q m.apply) (runFrom r m.apply) := by
  match m with
  | .asArray | .asScalar | .asSingleScalar | .lookalike _ | .note _ _ | .options _ =>
      exact change_alike h (fun _ _ => rfl) fun _ => rfl
  | .round seconds => exact round_alike hR h seconds
  | .collection items => exact applyAll_alike hR h items
  | .fail _ message => exact ⟨rfl, h⟩
  | .foreign what => exact ⟨rfl, h⟩

theorem applyAll_alike (hR : Statement.Likeness R) {q r : Query} (h : q.Alike R r) (ms : List Modifier) :
    RunsAlike (Query.Alike R) (runFrom q (applyAll ms)) (runFrom r (applyAll ms)) := by
  match ms with
  | [] => exact ⟨rfl, h⟩
  | m :: rest =>
      rw [applyAll]
      cases m.isGenuine with
      | false => exact ⟨rfl, h⟩
      | true =>
          simp only [Bool.not_true, Bool.false_eq_true, if_false]
          refine RunsAlike.bind (change_alike h (fun _ _ => rfl) fun _ => rfl) ?_
          intro _ q r h
          refine RunsAlike.bind (apply_alike hR h m) ?_
          intro _ q r h
          exact applyAll_alike hR h rest

end

end Modifier

/-! ## Repositories -/

namespace Repository

/-- Related queries are adjusted alike. -/
theorem adjust_alike (hR : Statement.Likeness R) {q r : Query} (h : q.Alike R r) (m : Option Modifier) :
    RunsAlike (Query.Alike R) (runFrom q (adjust m)) (runFrom r (adjust m)) := by
  cases m with
  | none => exact ⟨rfl, h⟩
  | some m =>
      rw [adjust]
      cases m.isGenuine with
      | false => exact ⟨rfl, h⟩
      | true => exact m.apply_alike hR h

theorem finished_alike {x y : Except Fault Unit × Query} (h : RunsAlike (Query.Alike R) x y)
    (trace : List Event) :
    QueriesAlike R (finished trace x).1 (finished trace y).1 ∧ (finished trace x).2 = (finished trace y).2 := by
  obtain ⟨outcome, q, r, rfl, rfl, hqueries⟩ := h.cases
  constructor
  · cases outcome with
    | error f => exact .refused f
    | ok u => exact .built hqueries
  · simp only [finished]
    rw [hqueries.rest]

variable (repo : Repository) {o o' : Operand}

/-- The queries for what is built alike come to be alike, whatever a modifier does, and report and note the same. -/
theorem query_alike (hR : Statement.Likeness R)
    (h : RunsAlike (Builder.Alike R) (repo.builder o none) (repo.builder o' none)) (m : Option Modifier) :
    QueriesAlike R (repo.query o m).1 (repo.query o' m).1 ∧ (repo.query o m).2 = (repo.query o' m).2 := by
  obtain ⟨outcome, b, c, hb, hc, hbuilders⟩ := h.cases
  rw [query_eq, query_eq, hb, hc]
  have htrace : c.trace = b.trace := by rw [hbuilders.rest]
  cases outcome with
  | error f =>
      refine ⟨.refused f, ?_⟩
      simp only [htrace]
  | ok u =>
      have hstart : (repo.started b.statement).Alike R (repo.started c.statement) := ⟨rfl, hbuilders.statement⟩
      simp only [htrace]
      exact finished_alike (adjust_alike hR hstart m) b.trace

/-- What is built alike finds the same in every session, whatever a modifier does to the query. -/
theorem find_alike (hR : Statement.Likeness R)
    (h : RunsAlike (Builder.Alike R) (repo.builder o none) (repo.builder o' none)) (fetch : Fetch)
    (m : Option Modifier) (session : Session) :
    (runFrom session (repo.find fetch o m)).1 = (runFrom session (repo.find fetch o' m)).1 := by
  obtain ⟨hqueries, -⟩ := repo.query_alike hR h m
  rw [find_outcome, find_outcome]
  generalize (repo.query o m).1 = x at hqueries ⊢
  generalize (repo.query o' m).1 = y at hqueries ⊢
  cases hqueries with
  | refused f => rfl
  | built hqr => simp only [Except.bind, hqr.loaded_eq hR, hqr.select_eq hR]

end Repository

end Criteria
