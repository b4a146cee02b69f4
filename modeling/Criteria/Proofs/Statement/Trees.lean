import Criteria.Proofs.Spec.Scope
import Criteria.Statement.Rows

/-!
# The rows of linked joins

A statement that selects from one root, through joins linked to it, selects from a single tree
(`Rooted.trees_eq`). Its rows are those that the joins make of the records of the root, one record after
another (`Rooted.mem_productRows`), and every such row has the record it starts from at the root.
-/

namespace Criteria

/-! ## Rows from a start -/

/-- The rows that joins make of one row. -/
def joinedRows (db : Database) (joins : List JoinStep) (start : Row) : List Row :=
  joins.foldl (fun rows j => rows.flatMap (j.extend db)) [start]

/-- Joins treat rows one by one. -/
theorem foldl_extend (db : Database) (joins : List JoinStep) (rows : List Row) :
    joins.foldl (fun rows j => rows.flatMap (j.extend db)) rows =
      rows.flatMap (joinedRows db joins) := by
  unfold joinedRows
  induction joins generalizing rows with
  | nil => simp
  | cons j rest ih =>
      simp only [List.foldl_cons, List.flatMap_singleton]
      rw [ih, List.flatMap_assoc]
      congr 1
      funext row
      exact (ih (j.extend db row)).symm

namespace JoinStep

/-- The records that a join puts behind a row. -/
def partners (db : Database) (j : JoinStep) (row : Row) : List Record :=
  match row.record? j.left with
  | none => []
  | some left =>
    (db.records j.target.entity).filter fun right => (j.relationship.links left right).holds

theorem extend_eq (db : Database) (j : JoinStep) (row : Row) :
    j.extend db row =
      if (j.partners db row).isEmpty && j.outer then [row ++ [(j.target, none)]]
      else (j.partners db row).map fun right => row ++ [(j.target, some right)] := rfl

theorem prefix_of_mem_extend {db : Database} {j : JoinStep} {row row' : Row}
    (h : row' ∈ j.extend db row) : row <+: row' := by
  rw [extend_eq] at h
  split at h
  · rw [List.mem_singleton] at h
    exact h ▸ List.prefix_append _ _
  · obtain ⟨right, -, rfl⟩ := List.mem_map.mp h
    exact List.prefix_append _ _

end JoinStep

/-- Joins leave the start of a row as it is. -/
theorem prefix_of_mem_joinedRows {db : Database} {joins : List JoinStep} {start row : Row}
    (h : row ∈ joinedRows db joins start) : start <+: row := by
  induction joins generalizing start with
  | nil => simp_all [joinedRows]
  | cons j rest ih =>
      rw [joinedRows, List.foldl_cons, foldl_extend] at h
      obtain ⟨row₁, h₁, hrow⟩ := List.mem_flatMap.mp h
      rw [List.flatMap_singleton] at h₁
      exact (JoinStep.prefix_of_mem_extend h₁).trans (ih hrow)

/-- A row has at the root the record it starts from. -/
theorem record?_of_mem_joinedRows {db : Database} {joins : List JoinStep} {root : Source}
    {r : Record} {row : Row} (h : row ∈ joinedRows db joins [(root, some r)]) :
    row.record? root = some r := by
  obtain ⟨rest, rfl⟩ := prefix_of_mem_joinedRows h
  simp [Row.record?]

namespace Statement

/-- A row of a tree starts with a record of the root and goes on with partners. -/
theorem JoinTree.mem_rows {db : Database} {t : JoinTree} {row : Row} :
    row ∈ t.rows db ↔
      ∃ r ∈ db.records t.root.entity, row ∈ joinedRows db t.joins [(t.root, some r)] := by
  simp only [rows, foldl_extend, List.mem_flatMap, List.mem_map]
  constructor
  · rintro ⟨start, ⟨r, hr, rfl⟩, hrow⟩
    exact ⟨r, hr, hrow⟩
  · rintro ⟨r, hr, hrow⟩
    exact ⟨_, ⟨r, hr, rfl⟩, hrow⟩

/-! ## One tree -/

/-- A statement that selects from one root and what is joined to it. -/
structure Rooted (root : Source) (s : Statement) : Prop where
  linked : Linked root s.joins
  origins : ∀ e ∈ s.origins, Source.table e = root
  items : ∀ e ∈ s.items.filterMap itemEntity?, Source.table e = root
  /-- The root is selected from even if nothing is joined. -/
  present : s.origins ≠ [] ∨ s.items.filterMap itemEntity? ≠ []
  conditions : ∀ x ∈ Clause.sourcesOf s.conditions, x ∈ root :: s.joins.map (·.target)

/-- Joins that start at the root, directly or through others, make one tree. -/
theorem foldl_attach {root : Source} {joins : List JoinStep} (h : Linked root joins) :
    joins.foldl attach [⟨root, []⟩] = [⟨root, joins⟩] := by
  induction h with
  | nil => rfl
  | snoc before start owner fresh ih =>
      rw [List.foldl_append, ih]
      simp only [List.foldl_cons, List.foldl_nil, attach]
      rw [if_pos (by simpa [JoinTree.sources] using start)]

/-- Without a table given before, the first join makes the tree. -/
theorem foldl_attach_nil {root : Source} {joins : List JoinStep} (h : Linked root joins)
    (hne : joins ≠ []) : joins.foldl attach [] = [⟨root, joins⟩] := by
  induction h with
  | nil => exact absurd rfl hne
  | @snoc js left r name outer before start owner fresh ih =>
      rw [List.foldl_append]
      by_cases hjs : js = []
      · subst hjs
        have hleft : left = root := by simpa using start
        simp [attach, hleft]
      · rw [ih hjs]
        simp only [List.foldl_cons, List.foldl_nil, attach]
        rw [if_pos (by simpa [JoinTree.sources] using start)]

/-- Sources that a tree has already need no tree of their own. -/
theorem foldl_cover {t : JoinTree} {ss : List Source} (h : ∀ s ∈ ss, s ∈ t.sources) :
    ss.foldl cover [t] = [t] := by
  induction ss with
  | nil => rfl
  | cons s rest ih =>
      have hs : cover [t] s = [t] := by
        simp [cover, h s List.mem_cons_self]
      rw [List.foldl_cons, hs]
      exact ih fun x hx => h x (List.mem_cons_of_mem _ hx)

theorem foldl_cover_nil {root : Source} {ss : List Source} (h : ∀ s ∈ ss, s = root)
    (hne : ss ≠ []) : ss.foldl cover [] = [⟨root, []⟩] := by
  match ss, hne with
  | s :: rest, _ =>
      obtain rfl := h s List.mem_cons_self
      rw [List.foldl_cons]
      exact foldl_cover fun x hx => by simp [JoinTree.sources, h x (List.mem_cons_of_mem _ hx)]

namespace Rooted

variable {root : Source} {s : Statement} (h : s.Rooted root)

include h

/-- A rooted statement selects from the one tree of its joins. -/
theorem trees_eq : s.trees = [⟨root, s.joins⟩] := by
  have horigins : ∀ x ∈ s.origins.map Source.table, x = root := by
    intro x hx
    obtain ⟨e, he, rfl⟩ := List.mem_map.mp hx
    exact h.origins e he
  have hitems : ∀ x ∈ (s.items.filterMap itemEntity?).map Source.table, x = root := by
    intro x hx
    obtain ⟨e, he, rfl⟩ := List.mem_map.mp hx
    exact h.items e he
  have hrest : ((s.items.filterMap itemEntity?).map Source.table ++
      Clause.sourcesOf s.conditions).foldl cover [⟨root, s.joins⟩] = [⟨root, s.joins⟩] := by
    apply foldl_cover
    intro x hx
    rcases List.mem_append.mp hx with hx | hx
    · simp [JoinTree.sources, hitems x hx]
    · exact h.conditions x hx
  unfold trees
  by_cases ho : s.origins = []
  · by_cases hj : s.joins = []
    · -- Nothing but the items says what to select from.
      have hne : (s.items.filterMap itemEntity?).map Source.table ≠ [] := by
        simpa using h.present.resolve_left fun hne => hne ho
      simp only [ho, hj, List.map_nil, List.foldl_nil, List.foldl_append]
      rw [foldl_cover_nil hitems hne]
      exact foldl_cover fun x hx => by simpa [hj, JoinTree.sources] using h.conditions x hx
    · simp only [ho, List.map_nil, List.foldl_nil, foldl_attach_nil h.linked hj]
      exact hrest
  · simp only [foldl_cover_nil horigins (by simpa using ho), foldl_attach h.linked]
    exact hrest

theorem sources_eq : s.sources = root :: s.joins.map (·.target) := by
  simp [sources, h.trees_eq, JoinTree.sources]

/-- The rows of a rooted statement start at the records of the root. -/
theorem mem_productRows {db : Database} {row : Row} :
    row ∈ productRows db s.trees ↔
      ∃ r ∈ db.records root.entity, row ∈ joinedRows db s.joins [(root, some r)] := by
  rw [h.trees_eq]
  simp [productRows, JoinTree.mem_rows]

end Rooted
end Statement
end Criteria
