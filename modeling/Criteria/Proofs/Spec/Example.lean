import Criteria.Proofs.Spec.Retrieval
import Criteria.Proofs.Statement.Negation
import Criteria.Spec.Make

/-!
# Trees by example

A tree by example compares columns with what the cells of a record stand for. A cell survives the way through a
value and a parameter back into a cell (`ColumnType.Stores.beside_load`), so the tree accepts a record exactly if
the two agree on these columns (`Spec.accepts_ofFields`).
-/

namespace Criteria

/-! ## Stored cells -/

/-- The cells that a column stores: those without a value, and those of the type of the column. -/
inductive ColumnType.Stores : ColumnType → Cell → Prop where
  | null (type : ColumnType) : Stores type .null
  | integer {n : Int} (room : Cell.hasRoom n = true) : Stores .integer (.int n)
  | text (s : String) : Stores .text (.text s)
  | no : Stores .boolean (.int 0)
  | yes : Stores .boolean (.int 1)
  | dateTime {t : DateTime} (clock : t.offset = none) : Stores .dateTime (.stamp t)

instance (type : ColumnType) (c : Cell) : Decidable (type.Stores c) :=
  match type, c with
  | type, .null => isTrue (.null type)
  | .integer, .int n => decidable_of_iff (Cell.hasRoom n = true) ⟨.integer, fun | .integer h => h⟩
  | .text, .text s => isTrue (.text s)
  | .boolean, .int n => decidable_of_iff (n = 0 ∨ n = 1)
      ⟨fun | .inl h => h ▸ .no | .inr h => h ▸ .yes, fun | .no => .inl rfl | .yes => .inr rfl⟩
  | .dateTime, .stamp t => decidable_of_iff (t.offset = none) ⟨.dateTime, fun | .dateTime h => h⟩
  | .integer, .real _ | .integer, .text _ | .integer, .stamp _ | .integer, .blob _
  | .text, .int _ | .text, .real _ | .text, .stamp _ | .text, .blob _
  | .boolean, .real _ | .boolean, .text _ | .boolean, .stamp _ | .boolean, .blob _
  | .dateTime, .int _ | .dateTime, .real _ | .dateTime, .text _ | .dateTime, .blob _ => isFalse nofun

/-- Only a cell without a value stands for null. -/
theorem isNull_load (type : ColumnType) (c : Cell) : (c.load type).isNull = decide (c = .null) := by
  cases c with
  | int n =>
      simp only [Cell.load]
      split <;> rfl
  | _ => rfl

@[simp] theorem Truth.holds_ofBool (t : Bool) : (Truth.ofBool t).holds = t := by
  cases t <;> rfl

namespace ColumnType.Stores

variable {type : ColumnType} {a b : Cell}

/-- What a stored cell stands for is bound as that cell. -/
theorem beside_load (h : type.Stores b) : (b.load type).beside type = b := by
  cases h with
  | null type => cases type <;> rfl
  | integer room =>
      simp [Cell.load, Value.beside, cellOf, Preparation.forValue, prepare, bindCell, room]
  | text s | no | yes => rfl
  | @dateTime t clock =>
      have hclock : t.withoutOffset = t := by
        obtain ⟨micros, offset, hfirst, hlast⟩ := t
        cases clock
        rfl
      exact congrArg Cell.stamp hclock

/-- What a stored cell stands for can be bound. -/
theorem binds_load (h : type.Stores b) : Parameter.Binds ⟨.forValue type (b.load type), b.load type⟩ := by
  cases h with
  | null type => cases type <;> exact ⟨_, _, rfl, rfl⟩
  | @integer n room => exact ⟨.int n, .int n, rfl, by simp [bindCell, room]⟩
  | text _ | no | yes | dateTime _ => exact ⟨_, _, rfl, rfl⟩

/-- The order of two stored cells with values tells whether they are the same. -/
theorem order_eq_iff (ha : type.Stores a) (hb : type.Stores b) (hne : b ≠ .null) :
    a.order (b.adapt (some type)) = .eq ↔ a = b := by
  cases hb with
  | null _ => exact absurd rfl hne
  | integer _ =>
      cases ha with
      | null _ => simp [Cell.order, Cell.adapt, Cell.rank]
      | integer _ => simp [Cell.order, Cell.adapt]
  | text _ =>
      cases ha with
      | null _ => simp [Cell.order, Cell.adapt, Cell.rank]
      | text _ => simp [Cell.order, Cell.adapt, Cell.compareText]
  | no => cases ha <;> decide
  | yes => cases ha <;> decide
  -- A column stores readings without an offset, so that these are told apart by their instants.
  | @dateTime t clock =>
      cases ha with
      | null _ => simp [Cell.order, Cell.adapt, Cell.rank]
      | @dateTime s clock' =>
          obtain ⟨micros, offset, hfirst, hlast⟩ := t
          obtain ⟨micros', offset', hfirst', hlast'⟩ := s
          cases clock
          cases clock'
          simp [Cell.order, Cell.adapt]

/-- An equality with what a stored cell stands for is true of that cell alone. -/
theorem holds_equality (ha : type.Stores a) (hb : type.Stores b) :
    ((Predicate.compare true .eq (b.load type)).ofCell type a).holds = true ↔ a = b := by
  by_cases hne : b = .null
  · subst hne
    simp [Cell.load, Predicate.ofCell]
  · -- Truth values are written out, and all others are bound.
    have hrelate : (Predicate.compare true .eq (b.load type)).ofCell type a =
        Cell.relate (some type) (· == .eq) a b := by
      have hbeside := hb.beside_load
      cases hb with
      | null _ => exact absurd rfl hne
      | no | yes => rfl
      | integer _ | text _ | dateTime _ => exact congrArg (Cell.relate (some _) (· == .eq) a) hbeside
    rw [hrelate]
    cases a with
    | null => simp [Cell.relate, Truth.holds, Ne.symm hne]
    | _ =>
        rw [← order_eq_iff ha hb hne]
        cases b with
        | null => exact absurd rfl hne
        | _ => simp [Cell.relate]

end ColumnType.Stores

/-! ## Examples -/

namespace Record

variable (e : Entity) (u : Record)

/-- What the cells of a record in some columns stand for, by the names of the columns. -/
def values (cs : List Column) : List (String × Value) := cs.map fun c => (c.name, (u.cell e c.name).load c.type)

/-- Those of some columns in which a record has a value. -/
def present (cs : List Column) : List Column := cs.filter fun c => u.cell e c.name ≠ .null

/-- Whether two records have the same cells in some columns. -/
def Agree (r : Record) (cs : List Column) : Prop := ∀ c ∈ cs, r.cell e c.name = u.cell e c.name

instance (r : Record) (cs : List Column) : Decidable (Agree e u r cs) := List.decidableBAll _ _

/-- Fields without a value are those of cells without one. -/
theorem values_filter (cs : List Column) :
    ((values e u cs).filter fun f => !f.2.isNull) = values e u (present e u cs) := by
  rw [values, List.filter_map, values, present]
  refine congrArg _ (List.filter_congr fun c _ => ?_)
  simp [isNull_load]

end Record

namespace Spec

/-- Whether an attribute belongs to what an example shows of itself. -/
def isPublic (name : String) : Bool := !name.toList.head?.any (· == '_')

theorem ofExample_eq (attributes : List (String × Value)) :
    ofExample attributes = ofPresentFields (attributes.filter fun f => isPublic f.1) := rfl

/-- A tree by example leaves out the columns in which the example has no value. -/
theorem ofPresentFields_values (e : Entity) (u : Record) (cs : List Column) :
    ofPresentFields (u.values e cs) = ofFields (u.values e (u.present e cs)) := by
  rw [ofPresentFields, Record.values_filter]

/-! ### What they say -/

section Meaning

variable {present : Source → Relationship → Truth} {names : List (String × Source)} {under : String}
  {e : Entity} {r u : Record} {cs : List Column}

theorem field?_of_mem_columns {c : Column} (hc : c ∈ e.columns) : e.field? c.name = some (.column c) := by
  have hall : ∀ c ∈ e.columns, e.field? c.name = some (.column c) := by cases e <;> decide
  exact hall c hc

/-- What an equality says about the row of a record. -/
theorem truth_equality (hunder : names.lookup under = some (.table e)) {c : Column} (hc : c ∈ e.columns)
    (named : Bool) (v : Value) :
    (Predicate.compare named .eq v).truth present names [(.table e, some r)] under c.name =
      (Predicate.compare named .eq v).ofCell c.type (r.cell e c.name) := by
  have hfield : (Source.table e).entity.field? c.name = some (.column c) := field?_of_mem_columns hc
  simp only [Predicate.truth, hunder, hfield]
  simp [Row.cell, Row.record?, Source.entity]

theorem holds_all {ts : List Truth} : (Truth.all ts).holds = ts.all Truth.holds := by
  induction ts with
  | nil => rfl
  | cons t rest ih =>
      rw [List.all_cons, ← ih]
      show (t.and (Truth.all rest)).holds = _
      cases t <;> cases Truth.all rest <;> rfl

theorem truths_filters (fields : List (String × Value)) (row : Row) :
    truths present names row under (fields.map fun f => .filter none f.1 (.compare true .eq f.2)) =
      fields.map fun f => (Predicate.compare true .eq f.2).truth present names row under f.1 := by
  induction fields with
  | nil => rfl
  | cons f rest ih =>
      rw [List.map_cons, truths, ih]
      rfl

/-- **An example accepts what agrees with it.** -/
theorem accepts_ofFields (hunder : names.lookup under = some (.table e)) (hcs : ∀ c ∈ cs, c ∈ e.columns)
    (hr : ∀ c ∈ cs, c.type.Stores (r.cell e c.name)) (hu : ∀ c ∈ cs, c.type.Stores (u.cell e c.name)) :
    (ofFields (u.values e cs)).accepts present names [(.table e, some r)] under = true ↔ u.Agree e r cs := by
  -- A tree of equalities says of a row what they say one by one, and without any it says nothing.
  have htruths : truths present names [(.table e, some r)] under
      ((u.values e cs).map fun f => .filter none f.1 (.compare true .eq f.2)) =
      cs.map fun c => (Predicate.compare true .eq ((u.cell e c.name).load c.type)).ofCell c.type
        (r.cell e c.name) := by
    rw [truths_filters, Record.values, List.map_map]
    exact List.map_congr_left fun c hc => truth_equality hunder (hcs c hc) _ _
  have hall : (ofFields (u.values e cs)).accepts present names [(.table e, some r)] under =
      cs.all fun c => ((Predicate.compare true .eq ((u.cell e c.name).load c.type)).ofCell c.type
        (r.cell e c.name)).holds := by
    rw [accepts, ofFields, truth?, htruths]
    cases cs with
    | nil => rfl
    | cons c rest =>
        rw [List.map_cons, together, Option.getD_some, holds_all, List.all_cons, List.all_cons, List.all_map]
        · rfl
        · exact List.cons_ne_nil _ _
  rw [hall, List.all_eq_true]
  exact forall₂_congr fun c hc => (hr c hc).holds_equality (hu c hc)

end Meaning

/-! ### What they build -/

section Building

variable {e : Entity} {under : String} {u : Record} {cs : List Column}

def equality (ref : ColumnRef) : Value → Clause
  | .null => .isNull false (.column ref)
  | .bool b => .constant false (.column ref) b
  | v => .compare .eq (.column ref) v

theorem onColumn_equality (named : Bool) (ref : ColumnRef) (v : Value) :
    (Predicate.compare named .eq v).onColumn ref = .ok (equality ref v) := by
  cases v <;> rfl

/-- An equality binds its value, if it binds any. -/
theorem eq_of_mem_parameters {ref : ColumnRef} {v : Value} {p : Parameter} (h : p ∈ (equality ref v).parameters) :
    p = ⟨.forValue ref.column.type v, v⟩ := by
  cases v with
  | null | bool b => cases h
  | _ => exact List.mem_singleton.mp h

/-- The conditions of an example, column by column. -/
def equalities (e : Entity) (u : Record) (cs : List Column) : List Clause :=
  cs.map fun c => equality ⟨.table e, c⟩ ((u.cell e c.name).load c.type)

theorem changes_ofFields (fields : List (String × Value)) : (ofFields fields).changes under = [] := by
  show changesAll under _ = []
  induction fields with
  | nil => rfl
  | cons f rest ih => exact ih

/-- Equalities on columns make one condition each. -/
theorem clauses_equalities {b : Builder} (hunder : b.aliases.lookup under = some (.table e))
    (hcs : ∀ c ∈ cs, c ∈ e.columns) :
    clauses b under ((u.values e cs).map fun f => .filter none f.1 (.compare true .eq f.2)) =
      .ok (equalities e u cs) := by
  induction cs with
  | nil => rfl
  | cons c rest ih =>
      obtain ⟨hc, hrest⟩ := List.forall_mem_cons.mp hcs
      have hfield : b.field c.name under = .ok (.table e, .column c) :=
        Builder.field_eq_ok.mpr ⟨hunder, field?_of_mem_columns hc⟩
      have hleaf (v : Value) : leafClause b under c.name (.compare true .eq v) = .ok (equality ⟨.table e, c⟩ v) := by
        rw [leafClause, hfield]
        exact onColumn_equality true _ v
      have hlater := ih hrest
      rw [Record.values] at hlater
      rw [Record.values, List.map_cons, List.map_cons, clauses, clause?, effectiveAlias, hleaf, hlater]
      rfl

theorem parametersOf_combine (cs : List Clause) :
    Clause.parametersOf (combine .conj cs).toList = cs.flatMap Clause.parameters := by
  rw [Clause.parametersOf_eq]
  rcases cs with _ | ⟨c, _ | ⟨d, rest⟩⟩
  · rfl
  · rfl
  · simp [combine, Clause.parameters, Clause.parametersOf_eq]

/-- **An example can be built**, into a statement without joins and orders whose values can be bound. -/
theorem exists_builder_ofFields (under : String) (hcs : ∀ c ∈ cs, c ∈ e.columns)
    (hu : ∀ c ∈ cs, c.type.Stores (u.cell e c.name)) :
    ∃ b, runFrom (Builder.ofEntity e under) ((ofFields (u.values e cs)).apply under) = (.ok (), b) ∧
      b.aliases.lookup under = some (.table e) ∧ b.statement.joins = [] ∧ b.statement.sorting = [] ∧
      b.statement.BindsAll := by
  have hunder : (Builder.ofEntity e under).aliases.lookup under = some (.table e) := by
    simp [Builder.ofEntity, Builder.start]
  have hclause : (ofFields (u.values e cs)).clause? (Builder.ofEntity e under) under =
      .ok (combine .conj (equalities e u cs)) := by
    rw [ofFields, clause?, clauses_equalities hunder hcs]
    rfl
  have hchanges : Change.applyAll (Builder.ofEntity e under) ((ofFields (u.values e cs)).changes under) =
      (.ok (), Builder.ofEntity e under) := by
    rw [changes_ofFields]
    rfl
  refine ⟨_, run_apply_eq_ok.mpr ⟨_, _, hchanges, hclause, rfl⟩, hunder, ?_, ?_, ?_⟩
  · cases combine .conj (equalities e u cs) <;> rfl
  · cases combine .conj (equalities e u cs) <;> rfl
  · refine exists_bindAll_iff.mpr fun p hp => ?_
    -- The statement has one condition at most, and binds what that one compares with.
    have hparameters : p ∈ (equalities e u cs).flatMap Clause.parameters := by
      rw [Statement.boundParameters_eq, bound_layConditions, bound_layConditions] at hp
      rw [← parametersOf_combine]
      revert hp
      cases combine .conj (equalities e u cs) <;>
        simp [Builder.ofEntity, Builder.start, Statement.addOptional, Statement.addCondition, Statement.ofEntity,
          Clause.parametersOf, layPaging]
    obtain ⟨clause, hclause, hp⟩ := List.mem_flatMap.mp hparameters
    obtain ⟨c, hc, rfl⟩ := List.mem_map.mp hclause
    rw [eq_of_mem_parameters hp]
    exact (hu c hc).binds_load

end Building

end Spec

end Criteria
