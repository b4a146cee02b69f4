import Criteria.Proofs.Query.Fetching
import Criteria.Proofs.Spec.Retrieval

/-!
# Counting what is fetched

Counting replaces what a statement selects and leaves its tables, joins and conditions alone, and joins and
orders leave alone what is selected. So it makes no difference to the rows where in a tree the count stands
(`builder_counted`), and a count is the number of rows that would be fetched without it
(`count_agrees_with_fetch`).
-/

namespace Criteria

/-! ## Counting among other changes -/

/-- Joins and orders do not mind whether rows are counted. -/
theorem Change.apply_countRows {b b' : Builder} {c : Change} (hc : c.isRetrieval = true)
    (h : c.apply b = .ok b') :
    c.apply (b.changed Statement.countRows) = .ok (b'.changed Statement.countRows) := by
  cases c with
  | join k under f n =>
      obtain ⟨j, hj, rfl⟩ := map_eq_ok.mp h
      exact map_eq_ok.mpr ⟨j, hj, rfl⟩
  | orderBy under f d =>
      obtain ⟨k, hk, rfl⟩ := map_eq_ok.mp h
      exact map_eq_ok.mpr ⟨k, hk, rfl⟩
  | _ => cases hc

/-- Joins and orders are made alike whether or not rows are counted. -/
theorem Change.applyAll_countRows {b b' : Builder} {cs : List Change}
    (hcs : ∀ c ∈ cs, c.isRetrieval = true) (h : applyAll b cs = (.ok (), b')) :
    applyAll (b.changed Statement.countRows) cs = (.ok (), b'.changed Statement.countRows) := by
  induction cs generalizing b with
  | nil =>
      cases h
      rfl
  | cons c rest ih =>
      obtain ⟨b₁, hc, hrest⟩ := applyAll_cons_eq_ok.mp h
      refine applyAll_cons_eq_ok.mpr ⟨_, apply_countRows (hcs c List.mem_cons_self) hc, ?_⟩
      exact ih (fun d hd => hcs d (List.mem_cons_of_mem _ hd)) hrest

/-- A tree that counts somewhere on its way, and else does what a retrieving tree does, makes the statement of
that tree with its rows counted. -/
theorem Spec.apply_counted {under : String} {s counted : Spec} {before after : List Change}
    {b b' : Builder} (hs : s.isRetrieval = true) (hchanges : s.changes under = before ++ after)
    (hcounted : counted.changes under = before ++ .countRows :: after)
    (hclause : ∀ b, counted.clause? b under = s.clause? b under)
    (h : runFrom b (s.apply under) = (.ok (), b')) :
    runFrom b (counted.apply under) = (.ok (), b'.changed Statement.countRows) := by
  obtain ⟨b₂, c, hall, hc, rfl⟩ := run_apply_eq_ok.mp h
  rw [hchanges] at hall
  obtain ⟨b₁, hbefore, hafter⟩ := Change.applyAll_append_eq_ok.mp hall
  have hretrieval : ∀ d ∈ after, d.isRetrieval = true := by
    intro d hd
    have hmem : d ∈ s.changes under := by
      rw [hchanges]
      exact List.mem_append_right _ hd
    exact isRetrieval_of_mem_changes hs d hmem
  -- The count is made between the two, and what follows runs on the counted statement as on the other.
  refine run_apply_eq_ok.mpr ⟨b₂.changed Statement.countRows, c, ?_, ?_, ?_⟩
  · rw [hcounted]
    refine Change.applyAll_append_eq_ok.mpr ⟨b₁, hbefore, ?_⟩
    exact Change.applyAll_cons_eq_ok.mpr ⟨_, rfl, Change.applyAll_countRows hretrieval hafter⟩
  · rw [hclause, clause?_changed, hc]
  · cases c <;> rfl

/-- A count contributes the condition of its child. -/
theorem Spec.clauses_counted (b : Builder) (under : String) (before : List Spec) (child : Spec)
    (after : List Spec) :
    Spec.clauses b under (before ++ .countOf (some child) :: after) =
      Spec.clauses b under (before ++ child :: after) := by
  induction before with
  | nil => rfl
  | cons s rest ih => simp only [List.cons_append, clauses, ih]

/-! ## Counting and fetching -/

namespace Repository

variable {repo : Repository}

/-- Whether one specification counts what another fetches: whenever the rows of the one can be fetched, the
other gives their number, in any session with the same database. -/
def Counts (repo : Repository) (counted fetched : Operand) : Prop :=
  ∀ (s t : Session) (r : Result), s.database = t.database →
    (runFrom s (repo.find .all fetched (some .asArray))).1 = .ok r →
    ∃ items : List Result, r = .list items ∧
      (runFrom t (repo.find .all counted (some .asSingleScalar))).1 =
        .ok (.value (.int (items.length : Nat)))

/-- A statement that retrieves entities is counted by the one that counts its rows. -/
theorem counts_of_builder {counted fetched : Operand}
    (h : ∀ b, repo.builder fetched none = (.ok (), b) →
      b.statement.Retrieves repo.entity ∧
        ∃ b', repo.builder counted none = (.ok (), b') ∧ b'.statement = b.statement.countRows) :
    repo.Counts counted fetched := by
  intro s t r hdatabase hfetched
  obtain ⟨hsession, b, hb⟩ := builder_of_find hfetched
  obtain ⟨hretrieves, b', hb', hstatement⟩ := h b hb
  rw [← formOf, find_of_builder .array hsession hb] at hfetched
  obtain ⟨rows, hrun, hitems⟩ := bind_eq_ok.mp hfetched
  cases hitems
  refine ⟨_, rfl, ?_⟩
  rw [← formOf, find_of_builder .singleScalar hsession hb', hstatement, ← hdatabase,
    hretrieves.run_countRows hrun]
  simp [Except.bind, hydrate, Session.shown, Result.ofElement, Cell.load]

/-- A tree that counts on its way counts what the tree without the count fetches. -/
theorem counts_of_spec {s counted : Spec} {before after : List Change} (hs : s.isRetrieval = true)
    (hchanges : s.changes repo.rootAlias = before ++ after)
    (hcounted : counted.changes repo.rootAlias = before ++ .countRows :: after)
    (hclause : ∀ b, counted.clause? b repo.rootAlias = s.clause? b repo.rootAlias) :
    repo.Counts (.spec counted) (.spec s) := by
  apply counts_of_builder
  intro b hb
  have happly : runFrom (Builder.ofEntity repo.entity repo.rootAlias) (s.apply repo.rootAlias) =
      (.ok (), b) := hb
  refine ⟨Spec.retrieves_of_apply hs happly, b.changed Statement.countRows, ?_, rfl⟩
  exact Spec.apply_counted hs hchanges hcounted hclause happly

/-- All rows of an entity are a retrieval. -/
theorem retrieves_ofEntity (root : Entity) : (Statement.ofEntity root).Retrieves root where
  shape := rfl
  linked := .nil
  conditions := by simp [Statement.ofEntity]

/-- **A count is the number of rows fetched.** A count of a tree of filters, joins and orders gives the number
of rows that the tree fetches, by itself and among other such trees in a conjunction; a count of nothing
gives the number of all rows. -/
theorem count_agrees_with_fetch (repo : Repository) :
    (∀ child : Spec, child.isRetrieval = true →
      repo.Counts (.spec (.countOf (some child))) (.spec child)) ∧
    (∀ (before : List Spec) (child : Spec) (after : List Spec), Spec.areRetrievals before = true →
      child.isRetrieval = true → Spec.areRetrievals after = true →
      repo.Counts (.spec (.conj (before ++ .countOf (some child) :: after)))
        (.spec (.conj (before ++ child :: after)))) ∧
    repo.Counts (.spec (.countOf none)) (.foreign .null) := by
  refine ⟨?_, ?_, ?_⟩
  · intro child hchild
    refine @counts_of_spec repo child _ [] _ hchild rfl rfl ?_
    intro b
    rfl
  · -- Among other trees only the changes and the clauses of the count differ, at its own place.
    intro before child after hbefore hchild hafter
    have hall : (Spec.conj (before ++ child :: after)).isRetrieval = true := by
      rw [Spec.areRetrievals_eq] at hbefore hafter
      simp [Spec.isRetrieval, Spec.areRetrievals_eq, hbefore, hchild, hafter]
    refine counts_of_spec hall (Spec.changesAll_append repo.rootAlias before (child :: after)) ?_ ?_
    · exact Spec.changesAll_append repo.rootAlias before (.countOf (some child) :: after)
    · intro b
      rw [Spec.clause?, Spec.clauses_counted]
      rfl
  · apply counts_of_builder
    intro b hb
    cases hb
    exact ⟨retrieves_ofEntity repo.entity, _, rfl, rfl⟩

/-- Users counted with their posts, or without where they have none, are as many as the rows fetched. -/
theorem count_users_with_posts :
    ∃ items : List Result,
      (runFrom ({ database := .sample } : Session) (({ entity := .user } : Repository).find .all
        (.spec (.join .left none "posts" "p")) (some .asArray))).1 = .ok (.list items) ∧
      (runFrom ({ database := .sample } : Session) (({ entity := .user } : Repository).find .all
        (.spec (.countOf (some (.join .left none "posts" "p")))) (some .asSingleScalar))).1 =
          .ok (.value (.int (items.length : Nat))) := by
  have hok : (runFrom ({ database := .sample } : Session) (({ entity := .user } : Repository).find .all
      (.spec (.join .left none "posts" "p")) (some .asArray))).1.isOk = true := by
    decide +kernel
  obtain ⟨hcounts, -⟩ := count_agrees_with_fetch { entity := .user }
  cases hfetched : (runFrom ({ database := .sample } : Session) (({ entity := .user } : Repository).find
      .all (.spec (.join .left none "posts" "p")) (some .asArray))).1 with
  | error f =>
      rw [hfetched] at hok
      cases hok
  | ok r =>
      obtain ⟨items, rfl, hcounted⟩ := hcounts (.join .left none "posts" "p") rfl
        { database := .sample } { database := .sample } r rfl hfetched
      exact ⟨items, rfl, hcounted⟩

end Repository
end Criteria
