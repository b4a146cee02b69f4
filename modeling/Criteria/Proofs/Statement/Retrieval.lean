import Criteria.Proofs.Statement.Check
import Criteria.Proofs.Statement.Distinct
import Criteria.Proofs.Statement.Results
import Mathlib.Data.List.Basic

/-!
# Statements that retrieve entities

A statement that does nothing but select the entities of its root, on joins linked to it, under conditions on
rows and in some order (`Statement.Retrieves`). Where its values can be bound, it runs if no two of its sources
have the same name (`Retrieves.run_of_distinctNames`), and is refused otherwise (`Retrieves.run_of_clash`). Its
results are the records of the root from which some joined row matches (`Retrieves.exists_records`), and counting
it instead gives the number of its results (`Retrieves.run_countRows`).
-/

namespace Criteria

/-! ## Conditions on rows -/

/-- Whether a clause is about rows, not groups, and compares columns of known sources only. -/
structure Clause.Within (known : List Source) (c : Clause) : Prop where
  rows : c.aggregates = false
  sources : ∀ s ∈ c.sources, s ∈ known

section Within

variable {known : List Source}

theorem Clause.Within.negate {c : Clause} (h : c.Within known) : c.negate.Within known := by
  cases c <;> exact ⟨h.rows, h.sources⟩

/-- Several clauses keep to known sources if they count no rows and read no others. -/
theorem Clause.within_all {cs : List Clause} :
    (∀ c ∈ cs, c.Within known) ↔
      Clause.anyAggregates cs = false ∧ ∀ s ∈ Clause.sourcesOf cs, s ∈ known := by
  induction cs with
  | nil => simp [anyAggregates, sourcesOf]
  | cons c rest ih =>
      simp only [List.forall_mem_cons, ih, anyAggregates, sourcesOf, Bool.or_eq_false_iff,
        List.mem_append]
      constructor
      · rintro ⟨⟨hrows, hsources⟩, hrest, hothers⟩
        exact ⟨⟨hrows, hrest⟩, fun s hs => hs.elim (hsources s) (hothers s)⟩
      · rintro ⟨⟨hrows, hrest⟩, hall⟩
        exact ⟨⟨hrows, fun s hs => hall s (.inl hs)⟩, hrest, fun s hs => hall s (.inr hs)⟩

theorem Clause.within_conj {cs : List Clause} (h : ∀ c ∈ cs, c.Within known) :
    (Clause.conj cs).Within known :=
  let ⟨hrows, hsources⟩ := Clause.within_all.mp h
  ⟨hrows, hsources⟩

theorem Clause.within_disj {cs : List Clause} (h : ∀ c ∈ cs, c.Within known) :
    (Clause.disj cs).Within known :=
  let ⟨hrows, hsources⟩ := Clause.within_all.mp h
  ⟨hrows, hsources⟩

end Within

/-! ## Retrieval -/

/-- A statement that selects the entities of its root, on the rows of joins linked to it, under conditions on
rows and in some order. -/
structure Statement.Retrieves (root : Entity) (s : Statement) : Prop where
  shape : s = { Statement.ofEntity root with
    joins := s.joins, conditions := s.conditions, sorting := s.sorting }
  linked : Linked (.table root) s.joins
  conditions : ∀ c ∈ s.conditions, c.Within (.table root :: s.joins.map (·.target))

/-- A statement that counts the rows of joins under conditions has one result, the number of its matching rows. -/
theorem Statement.results_of_count {root : Entity} {s : Statement}
    (hshape : s = { (Statement.ofEntity root).countRows with
      joins := s.joins, conditions := s.conditions, sorting := s.sorting }) (db : Database) :
    s.results db = [[.cell .integer (.int ((s.matchingRows db).length : Nat))]] := by
  have hgroups : s.groups db = [s.matchingRows db] := by
    rw [groups, isAggregate, hshape]
    rfl
  have hgroupConditions : s.groupConditions = [] := congrArg Statement.groupConditions hshape
  have hdistinct : s.distinct = false := congrArg Statement.distinct hshape
  have hlimit : s.limit = none := congrArg Statement.limit hshape
  have hoffset : s.offset = none := congrArg Statement.offset hshape
  have hitems : s.items = [.count none] := congrArg Statement.items hshape
  rw [results, hgroups]
  simp [hgroupConditions, Clause.truthAll, Truth.holds, hdistinct, hlimit, hoffset, hitems, SelectItem.element]

namespace Statement.Retrieves

variable {root : Entity} {s : Statement} (h : s.Retrieves root)

include h

theorem items_eq : s.items = [.entity root] := congrArg Statement.items h.shape

theorem groupConditions_eq : s.groupConditions = [] := congrArg Statement.groupConditions h.shape

theorem rooted : s.Rooted (.table root) where
  linked := h.linked
  origins := by
    have ho : s.origins = [] := congrArg Statement.origins h.shape
    simp [ho]
  items := by simp [h.items_eq, itemEntity?]
  present := by simp [h.items_eq, itemEntity?]
  conditions := (Clause.within_all.mp h.conditions).2

theorem rooted_countRows : s.countRows.Rooted (.table root) where
  linked := h.linked
  origins := by
    have ho : s.origins = [] := congrArg Statement.origins h.shape
    simp [countRows, ho, h.items_eq, itemEntity?]
  items := by simp [countRows, itemEntity?]
  present := by simp [countRows, h.items_eq, itemEntity?]
  conditions := h.rooted.conditions

/-! ### What is refused -/

/-- The sources of a retrieval are its root and what is joined. -/
theorem sources_eq : s.sources = .table root :: s.joins.map (·.target) := h.rooted.sources_eq

/-- Where names are distinct and values can be bound, a retrieval runs. -/
theorem run_of_distinctNames (db : Database) (hvalues : s.BindsAll)
    (hnames : DistinctNames (.table root :: s.joins.map (·.target))) :
    s.run db = .ok (s.results db) := by
  refine run_eq_ok.mpr ⟨(check_eq_ok h.groupConditions_eq).mpr ⟨hvalues, ?_, ?_⟩, rfl⟩
  · exact (Clause.within_all.mp h.conditions).1
  · intro c _
    rw [h.sources_eq]
    exact not_isAmbiguous hnames c

/-- Where two sources have the same name, a column that is selected or joined by is ambiguous. -/
theorem run_of_clash (db : Database) (hvalues : s.BindsAll)
    (hnames : ¬ DistinctNames (.table root :: s.joins.map (·.target))) :
    ∃ c : ColumnRef, s.run db = .error (.ambiguousColumn c.source.name c.column.name) := by
  have hrows := (Clause.within_all.mp h.conditions).1
  simp only [run_eq_error]
  cases hcheck : s.check with
  -- An accepted statement would name the ambiguous column, by selecting from its root or by a join.
  | ok u =>
      obtain ⟨-, -, hfine⟩ := (check_eq_ok h.groupConditions_eq).mp hcheck
      obtain ⟨c, hc, hambiguous⟩ := exists_isAmbiguous h.linked hnames
      have hnamed : c ∈ s.items.flatMap SelectItem.columns ++
          (Clause.columnsOf s.conditions ++ s.joins.flatMap JoinStep.columns) := by
        rcases List.mem_cons.mp hc with rfl | hc
        · refine List.mem_append_left _ ?_
          rw [h.items_eq]
          cases root <;> decide
        · exact List.mem_append_right _ (List.mem_append_right _ hc)
      have hnot := hfine c hnamed
      rw [h.sources_eq, hambiguous] at hnot
      cases hnot
  -- With values that can be bound, names are all that can be refused.
  | error f =>
      rw [check_eq hvalues h.groupConditions_eq hrows] at hcheck
      obtain ⟨c, rfl⟩ : ∃ c : ColumnRef, f = .ambiguousColumn c.source.name c.column.name := by
        cases hitems : s.checkNames (s.items.flatMap SelectItem.columns) with
        | error f' =>
            rw [hitems] at hcheck
            cases hcheck
            exact exists_of_checkNames_eq_error hitems
        | ok u =>
            rw [hitems] at hcheck
            exact exists_of_checkNames_eq_error hcheck
      exact ⟨c, rfl⟩

/-! ### What is found -/

/-- The results of a retrieval are its matching rows, sorted, each with the record at the root. -/
theorem results_eq_sorted (db : Database) :
    s.results db =
      (((s.matchingRows db).map fun row => [row]).mergeSort fun a b => sortOrder s.sorting a b != .gt).map
        fun g => [.entity root ((leadRow g).record? (.table root))] := by
  have hgroups : s.groups db = (s.matchingRows db).map fun row => [row] := by
    rw [groups, isAggregate, h.shape]
    rfl
  have hkept : ((s.groups db).filter fun g =>
      (Clause.truthAll db g (leadRow g) s.groupConditions).holds) = s.groups db := by
    rw [h.groupConditions_eq]
    exact List.filter_eq_self.mpr fun _ _ => rfl
  have hdistinct : s.distinct = false := congrArg Statement.distinct h.shape
  have hlimit : s.limit = none := congrArg Statement.limit h.shape
  have hoffset : s.offset = none := congrArg Statement.offset h.shape
  rw [results, hkept, hgroups, hdistinct, hlimit, hoffset, h.items_eq]
  rfl

/-- The results of a retrieval are its matching rows in some order, each with the record at the root. -/
theorem results_eq (db : Database) :
    ∃ rows : List Row, rows.Perm (s.matchingRows db) ∧
      s.results db = rows.map fun row => [.entity root (row.record? (.table root))] := by
  refine ⟨(((s.matchingRows db).map fun row => [row]).mergeSort
    fun a b => sortOrder s.sorting a b != .gt).map leadRow, ?_, ?_⟩
  · -- Sorting moves groups, and each of them is a single row.
    have hperm := (List.mergeSort_perm ((s.matchingRows db).map fun row => [row])
      fun a b => sortOrder s.sorting a b != .gt).map leadRow
    simpa [leadRow, Function.comp_def] using hperm
  · rw [h.results_eq_sorted, List.map_map]
    rfl

/-- Where the matching rows are in order already, the results are these rows. -/
theorem results_of_sorted {db : Database}
    (hsorted : (s.matchingRows db).Pairwise fun a b => (sortOrder s.sorting [a] [b] != .gt) = true) :
    s.results db = (s.matchingRows db).map fun row => [.entity root (row.record? (.table root))] := by
  rw [h.results_eq_sorted, List.mergeSort_of_pairwise (List.pairwise_map.mpr hsorted), List.map_map]
  rfl

/-- There is one result for each matching row. -/
theorem length_results (db : Database) : (s.results db).length = (s.matchingRows db).length := by
  obtain ⟨rows, hperm, hresults⟩ := h.results_eq db
  rw [hresults, List.length_map, hperm.length_eq]

/-- A row matches if it is one of the joined rows of a record of the root, and every condition is true of it. -/
theorem mem_matchingRows {db : Database} {row : Row} :
    row ∈ s.matchingRows db ↔
      (∃ r ∈ db.records root, row ∈ joinedRows db s.joins [(.table root, some r)]) ∧
        (Clause.truthAll db [row] row s.conditions).holds = true := by
  rw [matchingRows, List.mem_filter, h.rooted.mem_productRows]
  rfl

/-- The matching rows, by the records of the root that they start from. -/
theorem matchingRows_eq (db : Database) :
    s.matchingRows db = (db.records root).flatMap fun r =>
      (joinedRows db s.joins [(.table root, some r)]).filter fun row =>
        (Clause.truthAll db [row] row s.conditions).holds := by
  have hrows : productRows db s.trees =
      (db.records root).flatMap fun r => joinedRows db s.joins [(.table root, some r)] := by
    rw [h.rooted.trees_eq]
    simp [productRows, JoinTree.rows, foldl_extend, List.flatMap_map, Source.entity]
  rw [matchingRows, hrows, List.filter_flatMap]

/-- The results of a retrieval are records of the root, each as often as a joined row of it matches. -/
theorem exists_perm_records (db : Database) :
    ∃ rs : List Record, s.results db = (rs.map fun r => [.entity root (some r)]) ∧
      rs.Perm ((db.records root).flatMap fun r =>
        ((joinedRows db s.joins [(.table root, some r)]).filter fun row =>
          (Clause.truthAll db [row] row s.conditions).holds).map fun _ => r) := by
  obtain ⟨rows, hperm, hresults⟩ := h.results_eq db
  refine ⟨rows.filterMap fun row => row.record? (.table root), ?_, ?_⟩
  · -- Every row has a record at the root.
    have hrecord : ∀ row ∈ rows, ∃ r, row.record? (.table root) = some r := by
      intro row hrow
      obtain ⟨⟨r, -, hjoined⟩, -⟩ := h.mem_matchingRows.mp (hperm.mem_iff.mp hrow)
      exact ⟨r, record?_of_mem_joinedRows hjoined⟩
    rw [hresults]
    clear hperm hresults
    induction rows with
    | nil => rfl
    | cons row rest ih =>
        obtain ⟨r, hr⟩ := hrecord row List.mem_cons_self
        rw [List.map_cons, ih fun x hx => hrecord x (List.mem_cons_of_mem _ hx), List.filterMap_cons, hr]
        rfl
  · refine (hperm.filterMap _).trans (.of_eq ?_)
    rw [h.matchingRows_eq, List.filterMap_flatMap]
    refine List.flatMap_congr fun r _ => ?_
    rw [← List.filterMap_eq_map]
    refine List.filterMap_congr fun row hrow => ?_
    exact record?_of_mem_joinedRows (List.mem_filter.mp hrow).1

/-- The results of a retrieval are records of the root, those from which some joined row matches. -/
theorem exists_records (db : Database) :
    ∃ rs : List Record, s.results db = (rs.map fun r => [.entity root (some r)]) ∧
      ∀ r, r ∈ rs ↔ r ∈ db.records root ∧ ∃ row ∈ joinedRows db s.joins [(.table root, some r)],
        (Clause.truthAll db [row] row s.conditions).holds = true := by
  obtain ⟨rs, hresults, hperm⟩ := h.exists_perm_records db
  refine ⟨rs, hresults, fun r => ?_⟩
  rw [hperm.mem_iff]
  constructor
  · intro hr
    obtain ⟨t, ht, hr⟩ := List.mem_flatMap.mp hr
    obtain ⟨row, hrow, rfl⟩ := List.mem_map.mp hr
    obtain ⟨hjoined, hholds⟩ := List.mem_filter.mp hrow
    exact ⟨ht, row, hjoined, hholds⟩
  · rintro ⟨hr, row, hjoined, hholds⟩
    refine List.mem_flatMap.mpr ⟨r, hr, List.mem_map.mpr ⟨row, ?_, rfl⟩⟩
    exact List.mem_filter.mpr ⟨hjoined, hholds⟩

/-! ### What is counted -/

/-- Counting changes what is selected, not the rows that match. -/
theorem matchingRows_countRows (db : Database) : s.countRows.matchingRows db = s.matchingRows db := by
  rw [matchingRows, matchingRows, h.rooted.trees_eq, h.rooted_countRows.trees_eq]
  rfl

/-- Counting gives one number, that of the matching rows. -/
theorem results_countRows (db : Database) :
    s.countRows.results db = [[.cell .integer (.int ((s.matchingRows db).length : Nat))]] := by
  have hshape : s.countRows = { (Statement.ofEntity root).countRows with
      joins := s.countRows.joins, conditions := s.countRows.conditions, sorting := s.countRows.sorting } :=
    congrArg countRows h.shape
  rw [results_of_count hshape, h.matchingRows_countRows]

/-- **Counting agrees with retrieving**: where a retrieval runs, counting it runs and gives the number of its
results. -/
theorem run_countRows {db : Database} {rows : List (List Element)} (hrun : s.run db = .ok rows) :
    s.countRows.run db = .ok [[.cell .integer (.int (rows.length : Nat))]] := by
  obtain ⟨hcheck, rfl⟩ := run_eq_ok.mp hrun
  obtain ⟨hvalues, hrows, hnames⟩ := (check_eq_ok h.groupConditions_eq).mp hcheck
  rw [h.length_results, ← h.results_countRows db]
  have hgroup : s.countRows.groupConditions = [] := h.groupConditions_eq
  refine run_eq_ok.mpr ⟨(check_eq_ok hgroup).mpr ⟨?_, hrows, ?_⟩, rfl⟩
  · -- No value stands in what is selected or in the tables.
    obtain ⟨cells, hcells⟩ := hvalues
    refine ⟨cells, ?_⟩
    rw [boundParameters_eq] at hcells ⊢
    exact hcells
  · intro c hc
    have hsources : s.countRows.sources = s.sources := by
      rw [h.rooted_countRows.sources_eq, h.sources_eq]
      rfl
    rw [hsources]
    exact hnames c (List.mem_append_right _ hc)

end Statement.Retrieves
end Criteria
