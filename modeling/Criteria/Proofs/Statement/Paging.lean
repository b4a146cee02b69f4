import Criteria.Proofs.Statement.Check
import Criteria.Proofs.Statement.Results

/-!
# Pages of a statement

A limit and an offset leave the rows of a statement as they are and cut a page out of them. The store reads the
two counts as parameters behind all others, so that a page is refused for what the whole is refused for, and
otherwise only for a count that has no room in a cell (`run_paged`).
-/

namespace Criteria

/-! ## Lists -/

/-- A page is cut out before or after elements are changed. -/
theorem page_map {α β : Type} (f : α → β) (limit offset : Option Int) (xs : List α) :
    page limit offset (xs.map f) = (page limit offset xs).map f := by
  unfold page
  cases limit with
  | none => simp [List.map_drop]
  | some n =>
      by_cases hn : n < 0
      · simp [hn, List.map_drop]
      · simp [hn, List.map_drop, List.map_take]

/-- A page by natural numbers. -/
theorem page_natCast {α : Type} (n k : Nat) (xs : List α) :
    page (some (n : Int)) (some (k : Int)) xs = (xs.drop k).take n := by
  have hn : ¬ ((n : Int) < 0) := by omega
  simp [page, hn]

theorem page_take {α : Type} (n : Nat) (xs : List α) : page (some (n : Int)) none xs = xs.take n :=
  page_natCast n 0 xs

/-! ## Counts as parameters -/

/-- A count as a parameter. -/
def Parameter.ofCount (n : Int) : Parameter := ⟨.plain, .int n⟩

/-- The counts that the store reads for a page. It always reads both. -/
def pageCounts : Option Int → Option Int → List Int
  | none, none => []
  | some l, o => [l, o.getD 0]
  | none, some o => [-1, o]

theorem bound_layPaging (limit offset : Option Int) :
    (layPaging .sqlite limit offset).flatMap Fragment.bound =
      (pageCounts limit offset).map Parameter.ofCount := by
  cases limit <;> cases offset <;> rfl

/-- Counts are prepared without fault. -/
theorem mapM_prepare_counts (ns : List Int) :
    (ns.map Parameter.ofCount).mapM (fun p => prepare p.preparation p.value) = .ok (ns.map .int) := by
  induction ns with
  | nil => rfl
  | cons n rest ih =>
      rw [List.map_cons, List.mapM_cons, ih]
      rfl

/-- Counts are bound if they have room. -/
theorem mapM_bindCell_counts (ns : List Int) (start : Nat) :
    ((ns.map Parameter.ofCount).zip (ns.map Value.int) |>.zipIdx start).mapM
        (fun x : (Parameter × Value) × Nat => bindCell (x.2 + 1) x.1.1.preparation x.1.2) =
      if ns.all Cell.hasRoom then .ok (ns.map .int) else .error .integerTooLarge := by
  induction ns generalizing start with
  | nil => rfl
  | cons n rest ih =>
      have hfirst : bindCell (start + 1) .plain (.int n) =
          if Cell.hasRoom n then .ok (.int n) else .error .integerTooLarge := rfl
      simp only [List.map_cons, List.zip_cons_cons, List.zipIdx_cons, List.mapM_cons, ih,
        Parameter.ofCount, hfirst, List.all_cons]
      cases Cell.hasRoom n <;> cases rest.all Cell.hasRoom <;> rfl

theorem length_of_mapM_eq_ok {α β ε : Type} {f : α → Except ε β} {as : List α} {bs : List β}
    (h : as.mapM f = .ok bs) : bs.length = as.length := by
  induction as generalizing bs with
  | nil =>
      cases h
      rfl
  | cons a rest ih =>
      rw [List.mapM_cons] at h
      obtain ⟨b, -, h⟩ := bind_eq_ok.mp h
      obtain ⟨others, hothers, h⟩ := bind_eq_ok.mp h
      cases h
      rw [List.length_cons, List.length_cons, ih hothers]

/-- Counts behind other parameters are bound after them. -/
theorem bindAll_append_counts (ps : List Parameter) (ns : List Int) :
    bindAll (ps ++ ns.map Parameter.ofCount) =
      (bindAll ps).bind fun cells =>
        if ns.all Cell.hasRoom then .ok (cells ++ ns.map .int) else .error .integerTooLarge := by
  unfold bindAll
  rw [List.mapM_append, mapM_prepare_counts]
  cases hps : ps.mapM fun p => prepare p.preparation p.value with
  | error f => rfl
  | ok vs =>
      have hlength : ps.length = vs.length := (length_of_mapM_eq_ok hps).symm
      simp only [bind, Except.bind, pure, Except.pure]
      rw [List.zip_append hlength, List.zipIdx_append, List.mapM_append, mapM_bindCell_counts]
      cases (ps.zip vs).zipIdx.mapM fun x : (Parameter × Value) × Nat =>
          bindCell (x.2 + 1) x.1.1.preparation x.1.2 with
      | error f => rfl
      | ok cells => cases ns.all Cell.hasRoom <;> rfl

/-- Counts behind other parameters are prepared without fault. -/
theorem map_prepare_append_counts (ps : List Parameter) (ns : List Int) :
    ((ps ++ ns.map Parameter.ofCount).mapM fun p => prepare p.preparation p.value).map
        (fun _ => PUnit.unit) =
      (ps.mapM fun p => prepare p.preparation p.value).map fun _ => PUnit.unit := by
  rw [List.mapM_append, mapM_prepare_counts]
  cases ps.mapM fun p => prepare p.preparation p.value <;> rfl

/-! ## Pages -/

/-- What comes last in a step can be put behind it. -/
theorem bind_later {α β γ : Type} {x : Except Fault α} {f : α → Except Fault γ} {g : α → Except Fault β}
    {next : β → Except Fault γ} (h : ∀ a, f a = (g a).bind next) : x >>= f = (x >>= g).bind next := by
  cases x with
  | error fault => rfl
  | ok a => exact h a

namespace Statement

/-- A statement with a limit and an offset in place of its own. -/
def paged (s : Statement) (limit offset : Option Int) : Statement := { s with limit, offset }

variable {s : Statement}

/-- A page is refused for what the whole is refused for, and then for a count without room. -/
theorem check_paged (hlimit : s.limit = none) (hoffset : s.offset = none) (limit offset : Option Int) :
    (s.paged limit offset).check = s.check.bind fun _ =>
      if (pageCounts limit offset).all Cell.hasRoom then .ok () else .error .integerTooLarge := by
  have hparameters : (s.paged limit offset).boundParameters =
      s.boundParameters ++ (pageCounts limit offset).map Parameter.ofCount := by
    rw [boundParameters_eq, boundParameters_eq, bound_layPaging, hlimit, hoffset]
    simp [paged, layPaging]
  have hnames : ∀ cs, (s.paged limit offset).checkNames cs = s.checkNames cs := fun _ => rfl
  have haggregate : (s.paged limit offset).isAggregate = s.isAggregate := rfl
  have hgroup : (s.paged limit offset).groupConditions = s.groupConditions := rfl
  have hrows : (s.paged limit offset).conditions = s.conditions := rfl
  unfold check
  simp only [hparameters, forIn_prepare_eq, map_prepare_append_counts, bindAll_append_counts, hnames,
    haggregate, hgroup, hrows]
  -- Everything else is checked before the counts are bound.
  refine bind_later fun _ => bind_later fun _ => ?_
  split
  · rfl
  refine bind_later fun _ => ?_
  split
  · rfl
  refine bind_later fun _ => ?_
  cases bindAll s.boundParameters with
  | error f => rfl
  | ok cells => cases (pageCounts limit offset).all Cell.hasRoom <;> rfl

/-- The results of a page are the page of the results. -/
theorem results_paged (hlimit : s.limit = none) (hoffset : s.offset = none) (limit offset : Option Int)
    (db : Database) : (s.paged limit offset).results db = page limit offset (s.results db) := by
  unfold results
  rw [hlimit, hoffset, page_none]
  rfl

/-- **A page is a page of the rows.** It is refused for what the whole is refused for, and otherwise only for a
count without room. -/
theorem run_paged (hlimit : s.limit = none) (hoffset : s.offset = none) (limit offset : Option Int)
    (db : Database) :
    (s.paged limit offset).run db = (s.run db).bind fun rows =>
      if (pageCounts limit offset).all Cell.hasRoom then .ok (page limit offset rows)
      else .error .integerTooLarge := by
  unfold run
  rw [check_paged hlimit hoffset, results_paged hlimit hoffset]
  cases s.check with
  | error f => rfl
  | ok u => cases (pageCounts limit offset).all Cell.hasRoom <;> rfl

end Statement
end Criteria
