import Criteria.Proofs.Repository.Agreement
import Criteria.Proofs.Repository.Counting
import Criteria.Proofs.Repository.Paging

/-!
# Totals of pages

The limits and offsets of a tree that is counted are put on the statement that counts, so that they cut a page out
of its one row and not out of the rows that it counts. A page that has this row gives the number of all rows,
however many its limit allows; every other page leaves no result (`total_of_page`).
-/

namespace Criteria

/-! ## Pages of one row -/

/-- Whether a page of a single row has it. -/
def keepsOne (limit offset : Option Int) : Bool := limit ≠ some 0 && offset.getD 0 ≤ 0

/-- A page of a single row is that row or empty. -/
theorem page_singleton {α : Type} (limit offset : Option Int) (a : α) :
    page limit offset [a] = if keepsOne limit offset then [a] else [] := by
  have hdrop : [a].drop (offset.getD 0).toNat = if offset.getD 0 ≤ 0 then [a] else [] := by
    by_cases hoffset : offset.getD 0 ≤ 0
    · rw [if_pos hoffset, Int.toNat_of_nonpos hoffset, List.drop_zero]
    · rw [if_neg hoffset, List.drop_eq_nil_of_le]
      simp only [List.length_singleton]
      omega
  simp only [page, hdrop, keepsOne]
  by_cases hoffset : offset.getD 0 ≤ 0
  · cases limit with
    | none => simp [hoffset]
    | some n =>
        by_cases hzero : n = 0
        · simp [hzero]
        · by_cases hneg : n < 0
          · simp [hoffset, hzero, hneg]
          · have hroom : [a].length ≤ n.toNat := by
              simp only [List.length_singleton]
              omega
            simp [hoffset, hzero, hneg, List.take_of_length_le hroom]
  · cases limit <;> simp [hoffset]

/-- A page by natural numbers has the row if it has place for one and skips none. -/
theorem keepsOne_natCast (n m : Nat) :
    keepsOne (some (n : Int)) (some (m : Int)) = decide (0 < n ∧ m = 0) := by
  rw [keepsOne, Bool.eq_iff_iff]
  simp only [ne_eq, Option.some.injEq, Bool.and_eq_true, decide_eq_true_eq, Option.getD_some]
  omega

/-! ## The page of a tree -/

def Statement.bounds (s : Statement) : Option Int × Option Int := (s.limit, s.offset)

def Change.bounds (before : Option Int × Option Int) : Change → Option Int × Option Int
  | .limit v => ((Builder.countOf v).toOption.join, before.2)
  | .offset v => (before.1, (Builder.countOf v).toOption.join)
  | _ => before

/-- The last limit of a tree and its last offset. -/
def Spec.bounds (under : String) (s : Spec) : Option Int × Option Int :=
  (s.changes under).foldl Change.bounds (none, none)

theorem Change.bounds_of_apply {b b' : Builder} {c : Change} (h : c.apply b = .ok b') :
    b'.statement.bounds = c.bounds b.statement.bounds := by
  cases c with
  | limit v | offset v =>
      obtain ⟨n, hn, rfl⟩ := map_eq_ok.mp h
      simp [bounds, Statement.bounds, hn, Except.toOption]
  | having under child =>
      obtain ⟨d, -, rfl⟩ := map_eq_ok.mp h
      cases d <;> rfl
  | distinct | countRows =>
      cases h
      rfl
  | join k under f n | orderBy under f d | groupBy under f =>
      obtain ⟨x, -, rfl⟩ := map_eq_ok.mp h
      rfl

/-- After several changes a statement has the last of their limits and offsets. -/
theorem Change.bounds_of_applyAll {b b' : Builder} {cs : List Change} (h : applyAll b cs = (.ok (), b')) :
    b'.statement.bounds = cs.foldl bounds b.statement.bounds := by
  induction cs generalizing b with
  | nil =>
      cases h
      rfl
  | cons c rest ih =>
      obtain ⟨b₁, hc, hrest⟩ := applyAll_cons_eq_ok.mp h
      rw [ih hrest, bounds_of_apply hc, List.foldl_cons]

namespace Spec

/-- What is built has the last limit and the last offset of the tree. -/
theorem bounds_of_apply {root : Entity} {under : String} {s : Spec} {b : Builder}
    (h : runFrom (Builder.ofEntity root under) (s.apply under) = (.ok (), b)) :
    b.statement.bounds = s.bounds under := by
  obtain ⟨b₁, c, hchanges, -, rfl⟩ := run_apply_eq_ok.mp h
  have hbounds : b₁.statement.bounds = s.bounds under := Change.bounds_of_applyAll hchanges
  rw [← hbounds]
  cases c <;> rfl

/-- A count has the limit and the offset of what is counted. -/
theorem bounds_countOf (under : String) (s : Spec) : (countOf (some s)).bounds under = s.bounds under := rfl

/-- A page behind a tree is the last. -/
theorem bounds_withPage (under : String) (c : Spec) (n m : Nat) :
    (c.withPage n m).bounds under = (some (n : Int), some (m : Int)) := by
  have hchanges : (c.withPage n m).changes under =
      c.changes under ++ [.limit (.int n), .offset (.int m)] := rfl
  rw [bounds, hchanges, List.foldl_append]
  rfl

mutual

/-- A tree of filters, joins and orders has no limit and no offset. -/
theorem unpaged_of_isRetrieval {s : Spec} (hs : s.isRetrieval = true) : s.unpaged = s := by
  match s with
  | .conj cs | .disj cs => rw [unpaged, @unpagedAll_of_areRetrievals cs hs]
  | .neg c | .named _ _ c => rw [unpaged, unpaged_of_isRetrieval (s := c) hs]
  | .filter _ _ _ | .join _ _ _ _ | .orderBy _ _ _ | .idle | .base _ | .namedForeign _ _ _ => rfl
  | .countAbove _ _ _ _ | .limit _ | .offset _ | .groupBy _ _ | .distinct | .having _ | .countOf _ =>
      cases hs

theorem unpagedAll_of_areRetrievals {ss : List Spec} (hs : areRetrievals ss = true) : unpagedAll ss = ss := by
  match ss with
  | [] => rfl
  | s :: rest =>
      obtain ⟨hfirst, hrest⟩ := Bool.and_eq_true_iff.mp hs
      have hpaging : s.isPaging = false := by cases s <;> first | rfl | cases hfirst
      simp [unpagedAll, hpaging, unpaged_of_isRetrieval hfirst, unpagedAll_of_areRetrievals hrest]

end

mutual

/-- Retrievals have no counts to be read. -/
theorem countsRead_of_isRetrieval {s : Spec} (hs : s.isRetrieval = true) : s.countsRead = true := by
  match s with
  | .conj cs | .disj cs => exact @countsReadAll_of_areRetrievals cs hs
  | .neg c | .named _ _ c => exact countsRead_of_isRetrieval (s := c) hs
  | .filter _ _ _ | .join _ _ _ _ | .orderBy _ _ _ | .idle | .base _ | .namedForeign _ _ _ => rfl
  | .countAbove _ _ _ _ | .limit _ | .offset _ | .groupBy _ _ | .distinct | .having _ | .countOf _ =>
      cases hs

theorem countsReadAll_of_areRetrievals {ss : List Spec} (hs : areRetrievals ss = true) :
    countsReadAll ss = true := by
  match ss with
  | [] => rfl
  | s :: rest =>
      obtain ⟨hfirst, hrest⟩ := Bool.and_eq_true_iff.mp hs
      exact Bool.and_eq_true_iff.mpr
        ⟨countsRead_of_isRetrieval hfirst, countsReadAll_of_areRetrievals hrest⟩

end

end Spec

/-! ## Totals -/

/-- A tree of filters, joins and orders is counted by one row with one number. -/
theorem Spec.exists_total_of_apply {root : Entity} {under : String} {s : Spec} {b : Builder}
    (hs : s.isRetrieval = true)
    (h : runFrom (Builder.ofEntity root under) ((countOf (some s)).apply under) = (.ok (), b)) (db : Database) :
    ∃ total : Nat, b.statement.results db = [[.cell .integer (.int total)]] := by
  obtain ⟨b₁, c, hall, -, rfl⟩ := run_apply_eq_ok.mp h
  obtain ⟨b₀, hcount, hchanges⟩ := Change.applyAll_cons_eq_ok.mp hall
  cases hcount
  have hextends := Change.extends_of_applyAll (isRetrieval_of_mem_changes hs) hchanges
  refine ⟨_, @Statement.results_of_count root _ ?_ db⟩
  rw [Builder.changed_statement, hextends.statement]
  cases c <;> rfl

namespace Repository

variable (repo : Repository)

def total (c : Spec) (s : Session) : Except Fault Result :=
  repo.outcome .all (.spec (.countOf (some c))) (some .asSingleScalar) s

/-- What is left of a total by a limit and an offset. -/
def totalWithin (bounds : Option Int × Option Int) (total : Result) : Except Fault Result :=
  if (pageCounts bounds.1 bounds.2).all Cell.hasRoom then
    if keepsOne bounds.1 bounds.2 then .ok total else .error .noRow
  else .error .integerTooLarge

variable {repo} {c : Spec}

/-- What a repository builds for a count is what it builds without limits and offsets, but for the page. -/
theorem builder_countOf_unpaged (hread : c.countsRead = true) :
    repo.builder (.spec (.countOf (some c.unpaged))) none =
      ((repo.builder (.spec (.countOf (some c))) none).1,
        (repo.builder (.spec (.countOf (some c))) none).2.paged none none) :=
  Spec.apply_unpaged (s := .countOf (some c)) hread repo.rootAlias
    (Builder.ofEntity repo.entity repo.rootAlias) none none

/-- A total is that of the tree without its limits and offsets, within the last of them. -/
theorem total_eq {s t : Session} (hdatabase : s.database = t.database) (hread : c.countsRead = true)
    (hc : c.unpaged.isRetrieval = true) :
    repo.total c t = (repo.total c.unpaged s).bind (totalWithin (c.bounds repo.rootAlias)) := by
  have hunpaged : repo.builder (.spec (.countOf (some c.unpaged))) none = _ := builder_countOf_unpaged hread
  rw [total, total, outcome, outcome]
  cases hsession : repo.hasSession with
  | false =>
      rw [find_outcome, find_outcome, hsession]
      rfl
  | true =>
      rcases hbuilt : repo.builder (.spec (.countOf (some c))) none with ⟨f | u, b⟩
      · rw [hbuilt] at hunpaged
        rw [find_of_builder_error .all _ hsession hbuilt, find_of_builder_error .all _ hsession hunpaged]
        rfl
      · rw [hbuilt] at hunpaged
        obtain ⟨n, hresults⟩ := Spec.exists_total_of_apply hc hunpaged t.database
        -- Without limits and offsets there is one row, the number. The last of them make a page of it.
        have hbounds : (b.statement.limit, b.statement.offset) = c.bounds repo.rootAlias :=
          (Spec.bounds_of_apply hbuilt).trans (Spec.bounds_countOf repo.rootAlias c)
        have hpaged : b.statement = (b.paged none none).statement.paged b.statement.limit b.statement.offset := rfl
        rw [← formOf, find_of_builder .singleScalar hsession hbuilt,
          find_of_builder .singleScalar hsession hunpaged, hpaged, Statement.run_paged rfl rfl, hdatabase, ← hbounds]
        cases hrun : (b.paged none none).statement.run t.database with
        | error f => rfl
        | ok rows =>
            obtain ⟨-, rfl⟩ := Statement.run_eq_ok.mp hrun
            rw [hresults]
            simp only [Except.bind, totalWithin, page_singleton]
            cases (pageCounts b.statement.limit b.statement.offset).all Cell.hasRoom <;>
              cases keepsOne b.statement.limit b.statement.offset <;> rfl

/-- A tree alone in a conjunction is counted as by itself. -/
theorem total_conj_singleton (c : Spec) (s : Session) : repo.total (.conj [c]) s = repo.total c s := by
  have hclause : ∀ b, (Spec.countOf (some (.conj [c]))).clause? b repo.rootAlias =
      (Spec.countOf (some c)).clause? b repo.rootAlias := by
    intro b
    simp only [Spec.clause?, Spec.clauses]
    rcases c.clause? b repo.rootAlias with f | _ | d <;> rfl
  have hchanges : (Spec.countOf (some (.conj [c]))).changes repo.rootAlias =
      (Spec.countOf (some c)).changes repo.rootAlias := by
    simp [Spec.changes, Spec.changesAll]
  have hbuilder : repo.builder (.spec (.countOf (some (.conj [c])))) none =
      repo.builder (.spec (.countOf (some c))) none := by
    show runFrom _ (Spec.apply _ _) = runFrom _ (Spec.apply _ _)
    rw [Spec.run_apply, Spec.run_apply]
    simp only [effectiveAlias, hchanges, hclause]
  rw [total, total, outcome, outcome, find_outcome, find_outcome, query_eq, query_eq, hbuilder]

/-- **A page of a total.** Where a tree of filters, joins and orders is counted with a limit and an offset behind
it, there is room for both, the limit is not zero and nothing is skipped, the total is that of all rows; where the
limit is zero or something is skipped, there is no result. Wherever limits and offsets stand in a tree, the last
of each decide in this way about the total of the tree without them. -/
theorem total_of_page (repo : Repository) (s t : Session) (hdatabase : s.database = t.database) :
    (∀ c : Spec, c.isRetrieval = true → ∀ n m : Nat,
      repo.total (c.withPage n m) t = (repo.total c s).bind fun all =>
        if Cell.hasRoom n && Cell.hasRoom m then
          if 0 < n ∧ m = 0 then .ok all else .error .noRow
        else .error .integerTooLarge) ∧
    ∀ c : Spec, c.countsRead = true → c.unpaged.isRetrieval = true →
      repo.total c t = (repo.total c.unpaged s).bind (totalWithin (c.bounds repo.rootAlias)) := by
  refine ⟨?_, fun c hread hc => total_eq hdatabase hread hc⟩
  intro c hc n m
  have hsingle : Spec.areRetrievals [c] = true := by simp [Spec.areRetrievals, hc]
  -- This is the case of a tree whose only limit and offset stand behind it.
  have hunpaged : (c.withPage n m).unpaged = .conj [c] :=
    congrArg Spec.conj (Spec.unpagedAll_of_areRetrievals hsingle)
  have hread : (c.withPage n m).countsRead = true := by
    simp [Spec.withPage, Spec.countsRead, Spec.countsReadAll, Spec.countsRead_of_isRetrieval hc,
      Builder.countOf, Except.isOk, Except.toBool]
  have hretrieval : (c.withPage n m).unpaged.isRetrieval = true := by
    rw [hunpaged]
    exact hsingle
  rw [total_eq hdatabase hread hretrieval, hunpaged, total_conj_singleton, Spec.bounds_withPage]
  refine congrArg _ (funext fun all => ?_)
  simp [totalWithin, pageCounts, keepsOne_natCast]

/-- Three rows join users with their posts; behind the first of them there is no total. -/
theorem no_total_behind_offset :
    (({ entity := .user } : Repository).total (.join .join none "posts" "p")
        { database := .sample }).isOk = true ∧
      ({ entity := .user } : Repository).total (Spec.withPage (.join .join none "posts" "p") 2 1)
        { database := .sample } = .error .noRow := by
  have hok : (({ entity := .user } : Repository).total (.join .join none "posts" "p")
      { database := .sample }).isOk = true := by
    decide +kernel
  refine ⟨hok, ?_⟩
  obtain ⟨hpage, -⟩ := total_of_page { entity := .user } { database := .sample } { database := .sample } rfl
  rw [hpage (.join .join none "posts" "p") rfl 2 1]
  cases htotal : ({ entity := .user } : Repository).total (.join .join none "posts" "p")
      { database := .sample } with
  | error f =>
      rw [htotal] at hok
      cases hok
  | ok all => rfl

end Repository
end Criteria
