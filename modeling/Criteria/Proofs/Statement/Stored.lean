import Criteria.Proofs.Statement.Results
import Criteria.Proofs.Statement.Trees

/-!
# Results are stored records

Joins, groups and pages make rows of the records of a database and no records of their own. So every entity in
the results of a statement is a record of its table (`record_mem_of_mem_run`).
-/

namespace Criteria

/-! ## Rows of stored records -/

/-- Whether the records of a row are records of the database. -/
def Row.Stored (db : Database) (row : Row) : Prop :=
  ∀ s r, (s, some r) ∈ row → r ∈ db.records s.entity

namespace Row

variable {db : Database} {row : Row}

theorem stored_nil : Stored db [] := by
  intro s r h
  cases h

theorem Stored.append {row' : Row} (h : row.Stored db) (h' : row'.Stored db) : (row ++ row').Stored db := by
  intro s r hmem
  rcases List.mem_append.mp hmem with hmem | hmem
  · exact h s r hmem
  · exact h' s r hmem

theorem stored_none (s : Source) : Stored db [(s, none)] := by
  intro t r h
  simp at h

theorem stored_some {s : Source} {r : Record} (h : r ∈ db.records s.entity) : Stored db [(s, some r)] := by
  intro t r' hmem
  obtain ⟨rfl, hr⟩ : t = s ∧ r' = r := by simpa using hmem
  exact hr ▸ h

theorem Stored.record? (h : row.Stored db) {s : Source} {r : Record} (hr : row.record? s = some r) :
    r ∈ db.records s.entity := by
  have hlookup : row.lookup s = some (some r) := Option.join_eq_some_iff.mp hr
  obtain ⟨before, after, heq, -⟩ := List.lookup_eq_some_iff.mp hlookup
  exact h s r (by simp [heq])

end Row

/-- A join puts stored records behind a row. -/
theorem JoinStep.stored_of_mem_extend {db : Database} {j : JoinStep} {row row' : Row} (h : row.Stored db)
    (hrow : row' ∈ j.extend db row) : row'.Stored db := by
  rw [extend_eq] at hrow
  split at hrow
  · rw [List.mem_singleton] at hrow
    exact hrow ▸ h.append (Row.stored_none _)
  · obtain ⟨right, hright, rfl⟩ := List.mem_map.mp hrow
    refine h.append (Row.stored_some ?_)
    unfold partners at hright
    split at hright
    · cases hright
    · exact (List.mem_filter.mp hright).1

/-- Joins put records of the database behind a row. -/
theorem stored_of_mem_joinedRows {db : Database} {joins : List JoinStep} {start row : Row}
    (h : start.Stored db) (hrow : row ∈ joinedRows db joins start) : row.Stored db := by
  induction joins generalizing start with
  | nil =>
      obtain rfl : row = start := by simpa [joinedRows] using hrow
      exact h
  | cons j rest ih =>
      rw [joinedRows, List.foldl_cons, foldl_extend] at hrow
      obtain ⟨row₁, h₁, hrow⟩ := List.mem_flatMap.mp hrow
      rw [List.flatMap_singleton] at h₁
      exact ih (JoinStep.stored_of_mem_extend h h₁) hrow

theorem stored_of_mem_productRows {db : Database} {trees : List Statement.JoinTree} {row : Row}
    (h : row ∈ productRows db trees) : row.Stored db := by
  induction trees generalizing row with
  | nil =>
      obtain rfl : row = [] := by simpa [productRows] using h
      exact Row.stored_nil
  | cons t rest ih =>
      obtain ⟨first, hfirst, h⟩ := List.mem_flatMap.mp h
      obtain ⟨others, hothers, rfl⟩ := List.mem_map.mp h
      obtain ⟨r, hr, hjoined⟩ := Statement.JoinTree.mem_rows.mp hfirst
      exact (stored_of_mem_joinedRows (Row.stored_some hr) hjoined).append (ih hothers)

/-! ## Groups of stored records -/

theorem mem_of_mem_groupRuns {key : Row → List Cell} {rows : List Row} {g : Group} {row : Row}
    (hg : g ∈ groupRuns key rows) (hrow : row ∈ g) : row ∈ rows := by
  induction rows generalizing g with
  | nil => cases hg
  | cons first rest ih =>
      rw [groupRuns] at hg
      split at hg
      · obtain rfl : g = [first] := by simpa using hg
        exact List.mem_singleton.mp hrow ▸ List.mem_cons_self
      · rename_i g' groups hruns
        split at hg
        · rcases List.mem_cons.mp hg with rfl | hg
          · rcases List.mem_cons.mp hrow with rfl | hrow
            · exact List.mem_cons_self
            · exact List.mem_cons_of_mem _ (ih (hruns ▸ List.mem_cons_self) hrow)
          · exact List.mem_cons_of_mem _ (ih (hruns ▸ List.mem_cons_of_mem _ hg) hrow)
        · rcases List.mem_cons.mp hg with rfl | hg
          · exact List.mem_singleton.mp hrow ▸ List.mem_cons_self
          · exact List.mem_cons_of_mem _ (ih (hruns ▸ hg) hrow)

namespace Statement

variable {db : Database} {s : Statement}

/-- Groups consist of matching rows. -/
theorem mem_matchingRows_of_mem_groups {g : Group} {row : Row} (hg : g ∈ s.groups db) (hrow : row ∈ g) :
    row ∈ s.matchingRows db := by
  unfold groups at hg
  split at hg
  · exact List.mem_mergeSort.mp (mem_of_mem_groupRuns hg hrow)
  · split at hg
    · exact List.mem_singleton.mp hg ▸ hrow
    · obtain ⟨row', hrow', rfl⟩ := List.mem_map.mp hg
      exact List.mem_singleton.mp hrow ▸ hrow'

/-- The row that stands for a group is made of stored records, also where the group has no row. -/
theorem stored_leadRow {g : Group} (hg : g ∈ s.groups db) : (leadRow g).Stored db := by
  cases g with
  | nil => exact Row.stored_nil
  | cons row rest =>
      have hrow := mem_matchingRows_of_mem_groups hg (List.mem_cons_self (a := row))
      exact stored_of_mem_productRows (List.mem_filter.mp hrow).1

/-- **Entities are stored records.** -/
theorem record_mem_of_mem_run {rows : List (List Element)} {row : List Element} {e : Entity} {r : Record}
    (hrun : s.run db = .ok rows) (hrow : row ∈ rows) (h : .entity e (some r) ∈ row) : r ∈ db.records e := by
  obtain ⟨-, rfl⟩ := run_eq_ok.mp hrun
  obtain ⟨g, hg, rfl⟩ := exists_group_of_mem_results hrow
  obtain ⟨item, -, hitem⟩ := List.mem_map.mp h
  cases item with
  | entity e' =>
      obtain ⟨rfl, hr⟩ : e' = e ∧ (leadRow g).record? (.table e') = some r := by
        simpa [SelectItem.element] using hitem
      exact (stored_leadRow hg).record? hr
  | column e' c label | count label => cases hitem

end Statement
end Criteria
