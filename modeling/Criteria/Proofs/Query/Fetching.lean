import Criteria.Proofs.Running

/-!
# What fetching gives

The outcome of a query does not depend on what it reports. `Query.loaded` is the list of rows that a
session gives a query, and three equations say what follows from it: `load_outcome` for loading,
`fetch_outcome` for the results of a query, and `find_outcome` for those of a repository. Where a modifier only
asks for a form, what a repository finds are the rows of the built statement in that form (`find_of_builder`).
-/

namespace Criteria

/-! ## Queries -/

namespace Query

/-- The rows that a session gives a query: those of the database, as the session shows them. -/
def loaded (q : Query) (s : Session) : Except Fault (List (List Element)) :=
  if q.inSession then
    (q.statement.run s.database).bind fun rows =>
      if q.hasOption "stream_results" || q.hasOption "yield_per" then .error .serverCursor
      else if q.hasOption "populate_existing" then .ok rows
      else .ok (rows.map fun row => row.map (Session.shown s.held))
  else .error .queryWithoutSession

/-- Loading gives the rows that the session gives the query. -/
theorem load_outcome (q : Query) (s : Session) : (runFrom s q.load).1 = q.loaded s := by
  unfold load loaded
  cases q.inSession with
  | false => rfl
  | true =>
      cases q.logSql <;>
        simp only [runFrom_bind, runFrom_get, Session.run_report, Bool.not_true,
          Bool.false_eq_true, if_false, if_true]
      all_goals
        cases q.statement.run s.database with
        | error f => rfl
        | ok rows =>
            simp only [Except.bind]
            split
            · rfl
            · split <;> rfl

/-- Fetching loads the rows, brings them into the form asked for and selects from them. -/
theorem fetch_outcome (q : Query) (f : Fetch) (s : Session) :
    (runFrom s (q.fetch f)).1 =
      (q.loaded s).bind fun rows => f.select q.mode (hydrate q.mode q.statement.items rows) := by
  rw [← load_outcome]
  unfold fetch
  rw [runFrom_bind]
  rcases runFrom s q.load with ⟨fault | rows, t⟩
  · rfl
  · simp only [Except.bind]
    cases f.select q.mode (hydrate q.mode q.statement.items rows) <;> rfl

end Query

/-! ## Repositories -/

namespace Repository

/-- The query for a built statement, before a modifier adjusts it. -/
def started (repo : Repository) (st : Statement) : Query :=
  { statement := st, inSession := repo.hasSession, logSql := repo.logQueries }

/-- What a run on a query leaves behind what was reported before: the query, unless the run failed, and all
reports and notes. -/
def finished (trace : List Event) (x : Except Fault Unit × Query) : Except Fault Query × Journal :=
  (x.1.map fun _ => x.2, { trace := trace ++ x.2.trace, notes := x.2.notes })

/-- A query is built, and then adjusted. -/
theorem query_eq (repo : Repository) (spec : Operand) (m : Option Modifier) :
    repo.query spec m =
      match repo.builder spec none with
      | (.error f, b) => (.error f, { trace := b.trace })
      | (.ok _, b) => finished b.trace (runFrom (repo.started b.statement) (adjust m)) := by
  unfold query
  rcases repo.builder spec none with ⟨f | u, b⟩
  · rfl
  · simp only [finished, runFrom, started]
    rcases StateT.run (ExceptT.run (adjust m)) _ with ⟨f | u, q⟩ <;> rfl

/-- Whether a step only reports: it has the outcome `x` and leaves all of a session but its reports alone. -/
def Reports (step : Running Unit) (x : Except Fault Unit) : Prop :=
  ∀ s : Session, ∃ trace, runFrom s step = (x, { s with trace })

theorem reports_report (e : Event) : Reports (Session.report e) (.ok ()) := fun s => ⟨s.trace ++ [e], rfl⟩

theorem reports_ite {p : Prop} [Decidable p] {first second : Running Unit} {x y : Except Fault Unit}
    (hfirst : Reports first x) (hsecond : Reports second y) :
    Reports (if p then first else second) (if p then x else y) := by
  split
  · exact hfirst
  · exact hsecond

/-- Running a query that a repository has built, behind an announcement: what is reported before does not count. -/
theorem runQuery_outcome (repo : Repository) (f : Fetch) (spec : Operand) (m : Option Modifier)
    {announce : Running Unit} {x : Except Fault Unit} (hannounce : Reports announce x) (s : Session) :
    (runFrom s (repo.runQuery f spec m announce)).1 =
      if repo.hasSession then
        (repo.query spec m).1.bind fun q => x.bind fun _ =>
          (q.loaded s).bind fun rows => f.select q.mode (hydrate q.mode q.statement.items rows)
      else .error .noSession := by
  unfold runQuery
  cases repo.hasSession with
  | false => rfl
  | true =>
      rcases repo.query spec m with ⟨fault | q, journal⟩
      · simp only [Bool.not_true, Bool.false_eq_true, if_false, if_true]
        rw [runFrom_bind_ok (Session.run_reportAll s journal.trace)]
        rfl
      · simp only [Bool.not_true, Bool.false_eq_true, if_false, if_true]
        rw [runFrom_bind_ok (Session.run_reportAll s journal.trace), runFrom_bind]
        -- An announcement changes the trace at most, and loading does not look at that.
        obtain ⟨trace, hrun⟩ := hannounce { s with trace := s.trace ++ journal.trace }
        rw [hrun]
        cases x with
        | error fault => rfl
        | ok u =>
            simp only [Except.bind]
            rw [Query.fetch_outcome]
            rfl

/-- Finding is building the query, loading its rows and selecting from them. Reports do not count. -/
theorem find_outcome (repo : Repository) (f : Fetch) (spec : Operand) (m : Option Modifier)
    (s : Session) :
    (runFrom s (repo.find f spec m)).1 =
      if repo.hasSession then
        (repo.query spec m).1.bind fun q =>
          (q.loaded s).bind fun rows => f.select q.mode (hydrate q.mode q.statement.items rows)
      else .error .noSession := by
  have hannounce := reports_ite (p := f = .all) (reports_report (.matching repo.entity spec.printed))
    (fun s => ⟨s.trace, rfl⟩ : Reports (pure ()) (.ok ()))
  rw [ite_self] at hannounce
  exact repo.runQuery_outcome f spec m hannounce s

/-- What can be written is reported. -/
theorem announce_of_writable (repo : Repository) {spec : Operand} (h : spec.isWritable = true) :
    repo.announce spec = Session.report (.matching repo.entity spec.printed) := by
  rw [announce, Operand.written, if_pos h]

/-- What cannot be written fails without a report. -/
theorem reports_announce_of_unwritable (repo : Repository) {spec : Operand} (h : spec.isWritable = false) :
    Reports (repo.announce spec) (.error .tooManyDigits) := by
  intro s
  refine ⟨s.trace, ?_⟩
  rw [announce, Operand.written, if_neg (by simp [h])]
  rfl

/-- Fetching is finding, unless all that matches is asked for and what is looked for cannot be written. -/
theorem fetch_eq_find (repo : Repository) {f : Fetch} {spec : Operand} (h : f = .all → spec.isWritable = true)
    (m : Option Modifier) : repo.fetch f spec m = repo.find f spec m := by
  unfold fetch find
  split
  · rename_i hall
    rw [repo.announce_of_writable (h hall)]
  · rfl

/-- In that case it fails once the query is built. -/
theorem fetch_outcome_of_unwritable (repo : Repository) {spec : Operand} (h : spec.isWritable = false)
    (m : Option Modifier) (s : Session) :
    (runFrom s (repo.fetch .all spec m)).1 =
      if repo.hasSession then (repo.query spec m).1.bind fun _ => .error .tooManyDigits
      else .error .noSession :=
  repo.runQuery_outcome .all spec m (repo.reports_announce_of_unwritable h) s

/-- The modifier that only asks for a form of the results. -/
def formOf : Hydration → Option Modifier
  | .object => none
  | .array => some .asArray
  | .scalar => some .asScalar
  | .singleScalar => some .asSingleScalar

variable {repo : Repository} {spec : Operand} {b : Builder} {f : Fault}

/-- A modifier that only asks for a form changes nothing but the form. -/
theorem query_of_builder (mode : Hydration) (h : repo.builder spec none = (.ok (), b)) :
    (repo.query spec (formOf mode)).1 = .ok
      { statement := b.statement, inSession := repo.hasSession, mode, logSql := repo.logQueries } := by
  unfold query
  rw [h]
  cases mode <;> rfl

theorem query_of_builder_error (m : Option Modifier) (h : repo.builder spec none = (.error f, b)) :
    (repo.query spec m).1 = .error f := by
  unfold query
  rw [h]

/-- What is found is what the built statement selects, as the session shows it, in the form asked for. -/
theorem find_of_builder (mode : Hydration) (hsession : repo.hasSession = true)
    (h : repo.builder spec none = (.ok (), b)) (s : Session) :
    (runFrom s (repo.find .all spec (formOf mode))).1 =
      (b.statement.run s.database).bind fun rows =>
        hydrate mode b.statement.items (rows.map fun row => row.map (Session.shown s.held)) := by
  rw [find_outcome, hsession, query_of_builder mode h]
  simp only [if_true, Except.bind, Query.loaded, hsession, Fetch.select]
  cases b.statement.run s.database <;> rfl

theorem find_of_builder_error (fetch : Fetch) (m : Option Modifier) (hsession : repo.hasSession = true)
    (h : repo.builder spec none = (.error f, b)) (s : Session) :
    (runFrom s (repo.find fetch spec m)).1 = .error f := by
  rw [find_outcome, hsession, query_of_builder_error m h]
  rfl

/-- Something is found only in a session, by a specification that can be built. -/
theorem builder_of_find {m : Option Modifier} {s : Session} {r : Result}
    (h : (runFrom s (repo.find .all spec m)).1 = .ok r) :
    repo.hasSession = true ∧ ∃ b, repo.builder spec none = (.ok (), b) := by
  cases hsession : repo.hasSession with
  | false =>
      rw [find_outcome, hsession] at h
      cases h
  | true =>
      refine ⟨rfl, ?_⟩
      rcases hbuild : repo.builder spec none with ⟨f | u, b⟩
      · rw [find_of_builder_error .all m hsession hbuild] at h
        cases h
      · exact ⟨b, rfl⟩

end Repository
end Criteria
