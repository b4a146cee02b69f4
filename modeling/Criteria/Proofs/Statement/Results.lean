import Criteria.Statement.Rows

/-!
# Result rows

Pages and the removal of repeats take rows away and make none, so every row that a statement gives
has one element for each item (`length_of_mem_run`).
-/

namespace Criteria

theorem mem_of_mem_dropRepeats {α : Type} [DecidableEq α] {a : α} {seen xs : List α}
    (h : a ∈ dropRepeats seen xs) : a ∈ xs := by
  induction xs generalizing seen with
  | nil => simp [dropRepeats] at h
  | cons x rest ih =>
      rw [dropRepeats] at h
      split at h
      · exact List.mem_cons_of_mem _ (ih h)
      · rcases List.mem_cons.mp h with rfl | h'
        · exact List.mem_cons_self
        · exact List.mem_cons_of_mem _ (ih h')

theorem mem_of_mem_page {α : Type} {a : α} {limit offset : Option Int} {xs : List α}
    (h : a ∈ page limit offset xs) : a ∈ xs := by
  unfold page at h
  cases limit with
  | none => exact List.mem_of_mem_drop h
  | some n =>
      simp only at h
      split at h
      · exact List.mem_of_mem_drop h
      · exact List.mem_of_mem_drop (List.mem_of_mem_take h)

@[simp] theorem page_none {α : Type} (xs : List α) : page none none xs = xs := rfl

namespace Statement

/-- A statement that runs gives its result rows. -/
theorem run_eq_ok {db : Database} {s : Statement} {rows : List (List Element)} :
    s.run db = .ok rows ↔ s.check = .ok () ∧ rows = s.results db := by
  unfold run
  cases s.check with
  | error f => simp [bind, Except.bind]
  | ok u => simp [bind, Except.bind, pure, Except.pure, eq_comm]

/-- A run fails only in the check. -/
theorem run_eq_error {db : Database} {s : Statement} {f : Fault} :
    s.run db = .error f ↔ s.check = .error f := by
  unfold run
  cases s.check with
  | error f => simp [bind, Except.bind]
  | ok u => simp [bind, Except.bind, pure, Except.pure]

/-- Every result row is what the items select from some group. -/
theorem exists_group_of_mem_results {db : Database} {s : Statement} {row : List Element}
    (h : row ∈ s.results db) : ∃ g ∈ s.groups db, row = s.items.map (SelectItem.element g) := by
  have hrow := mem_of_mem_page h
  have hmem : row ∈ (((s.groups db).filter fun g =>
      (Clause.truthAll db g (leadRow g) s.groupConditions).holds).mergeSort
        fun a b => sortOrder s.sorting a b != .gt).map
      fun g => s.items.map (SelectItem.element g) := by
    split at hrow
    · exact mem_of_mem_dropRepeats hrow
    · exact hrow
  obtain ⟨g, hg, rfl⟩ := List.mem_map.mp hmem
  exact ⟨g, (List.mem_filter.mp (List.mem_mergeSort.mp hg)).1, rfl⟩

theorem length_of_mem_results {db : Database} {s : Statement} {row : List Element}
    (h : row ∈ s.results db) : row.length = s.items.length := by
  obtain ⟨g, -, rfl⟩ := exists_group_of_mem_results h
  exact List.length_map _

theorem length_of_mem_run {db : Database} {s : Statement} {rows : List (List Element)}
    {row : List Element} (h : s.run db = .ok rows) (hrow : row ∈ rows) :
    row.length = s.items.length := by
  obtain ⟨-, rfl⟩ := run_eq_ok.mp h
  exact length_of_mem_results hrow

end Statement
end Criteria
