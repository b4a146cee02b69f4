import Criteria.Proofs.Running
import Criteria.Statement.Rows

/-!
# What the store refuses

A statement without conditions on groups is accepted exactly if its values can be bound, no row counts rows,
and no column that it names is ambiguous (`check_eq_ok`). Which values are bound depends on the conditions
and the page only, and not on what is selected and from where (`boundParameters_eq`).
-/

namespace Criteria

/-! ## Values -/

/-- Going through parameters prepares all of them, as binding does. -/
theorem forIn_prepare_eq (ps : List Parameter) :
    (forIn ps PUnit.unit (fun (p : Parameter) _ => do
      let _ ← prepare p.preparation p.value
      pure (ForInStep.yield PUnit.unit)) : Except Fault PUnit) =
      (ps.mapM fun p => prepare p.preparation p.value).map fun _ => PUnit.unit := by
  induction ps with
  | nil => rfl
  | cons p rest ih =>
      rw [List.forIn_cons, List.mapM_cons]
      cases prepare p.preparation p.value with
      | error f => rfl
      | ok v =>
          refine ih.trans ?_
          cases rest.mapM fun p => prepare p.preparation p.value <;> rfl

/-- Preparing the parameters one by one succeeds if all can be bound. -/
theorem forIn_prepare {ps : List Parameter} {cells : List Cell} (h : bindAll ps = .ok cells) :
    (forIn ps PUnit.unit fun (p : Parameter) _ => do
      let _ ← prepare p.preparation p.value
      pure (ForInStep.yield PUnit.unit) : Except Fault PUnit) = .ok PUnit.unit := by
  obtain ⟨prepared, hprepared, -⟩ := bind_eq_ok.mp h
  rw [forIn_prepare_eq, hprepared]
  rfl

/-- Preparing parameters one by one fails with the fault of one of them. -/
theorem forIn_prepare_eq_error {ps : List Parameter} {f : Fault}
    (h : (forIn ps PUnit.unit fun (p : Parameter) _ => do
      let _ ← prepare p.preparation p.value
      pure (ForInStep.yield PUnit.unit) : Except Fault PUnit) = .error f) :
    ∃ p ∈ ps, prepare p.preparation p.value = .error f := by
  rw [forIn_prepare_eq] at h
  cases hprepared : ps.mapM fun p => prepare p.preparation p.value with
  | error g =>
      rw [hprepared] at h
      cases h
      exact mapM_eq_error hprepared
  | ok vs =>
      rw [hprepared] at h
      cases h

def Parameter.Binds (p : Parameter) : Prop :=
  ∃ v c, prepare p.preparation p.value = .ok v ∧ bindCell 1 p.preparation v = .ok c

/-- Where a parameter stands plays no part in whether it is bound. -/
theorem exists_bindCell_iff (i j : Nat) (p : Preparation) (v : Value) :
    (∃ c, bindCell i p v = .ok c) ↔ ∃ c, bindCell j p v = .ok c := by
  cases v <;> simp [bindCell]

/-- Parameters are bound if each of them is. -/
theorem exists_bindAll_iff {ps : List Parameter} :
    (∃ cells, bindAll ps = .ok cells) ↔ ∀ p ∈ ps, p.Binds := by
  by_cases hprepared : ∀ p ∈ ps, ∃ v, prepare p.preparation p.value = .ok v
  · let value (p : Parameter) : Value := (prepare p.preparation p.value).toOption.getD .null
    have hvalue : ∀ p ∈ ps, prepare p.preparation p.value = .ok (value p) := by
      intro p hp
      obtain ⟨v, hv⟩ := hprepared p hp
      simp [value, hv, Except.toOption]
    have hpairs : ps.zip (ps.map value) = ps.map fun p => (p, value p) :=
      List.map_prod_left_eq_zip.symm
    have hplaces : ∀ x, x ∈ (ps.map fun p => (p, value p)).zipIdx.map Prod.fst ↔
        x ∈ ps.map fun p => (p, value p) := by
      intro x
      rw [List.zipIdx_map_fst]
    simp only [bindAll, mapM_eq_map hvalue, bind, Except.bind, hpairs, exists_mapM_iff]
    constructor
    · intro h p hp
      obtain ⟨⟨x, i⟩, hx, rfl⟩ := List.mem_map.mp ((hplaces _).mpr (List.mem_map_of_mem hp))
      obtain ⟨c, hc⟩ := (exists_bindCell_iff (i + 1) 1 _ _).mp (h _ hx)
      exact ⟨_, c, hvalue p hp, hc⟩
    · rintro h ⟨x, i⟩ hx
      obtain ⟨p, hp, rfl⟩ := List.mem_map.mp ((hplaces x).mp (List.mem_map_of_mem hx))
      obtain ⟨v, c, hv, hc⟩ := h p hp
      rw [hvalue p hp] at hv
      cases hv
      exact (exists_bindCell_iff 1 (i + 1) _ _).mp ⟨c, hc⟩
  · -- One that cannot be prepared is in the way of all.
    constructor
    · rintro ⟨cells, h⟩
      obtain ⟨vs, hvs, -⟩ := bind_eq_ok.mp h
      exact absurd (exists_mapM_iff.mp ⟨vs, hvs⟩) hprepared
    · intro h
      refine absurd (fun p hp => ?_) hprepared
      obtain ⟨v, c, hv, -⟩ := h p hp
      exact ⟨v, hv⟩

def Fragment.bound : Fragment → List Parameter
  | .parameter _ p => [p]
  | .parameters _ preparation values => values.map (⟨preparation, ·⟩)
  | _ => []

/-- Whether fragments have no parameters. -/
def Fragment.Literal (fs : List Fragment) : Prop := fs.flatMap Fragment.bound = []

namespace Fragment

@[simp] theorem literal_nil : Literal [] := rfl

@[simp] theorem literal_cons_text (s : String) (fs : List Fragment) :
    Literal (.text s :: fs) ↔ Literal fs := by
  simp [Literal, bound]

@[simp] theorem literal_cons_label (s : String) (fs : List Fragment) :
    Literal (.label s :: fs) ↔ Literal fs := by
  simp [Literal, bound]

@[simp] theorem literal_append (fs gs : List Fragment) :
    Literal (fs ++ gs) ↔ Literal fs ∧ Literal gs := by
  simp [Literal]

theorem literal_separated {separator : String} {parts : List (List Fragment)}
    (h : ∀ fs ∈ parts, Literal fs) : Literal (separated separator parts) := by
  induction parts with
  | nil => rfl
  | cons fs rest ih =>
      have hfs := h fs List.mem_cons_self
      cases rest with
      | nil => exact hfs
      | cons gs more =>
          have hrest := ih fun x hx => h x (List.mem_cons_of_mem _ hx)
          simpa [separated] using ⟨hfs, hrest⟩

/-- Whether a change of fragments leaves their texts alone. -/
def KeepsText (f : Fragment → Fragment) : Prop := ∀ s, f (.text s) = .text s

theorem map_separated {f : Fragment → Fragment} (hf : KeepsText f) (separator : String)
    (parts : List (List Fragment)) :
    (separated separator parts).map f = separated separator (parts.map fun fs => fs.map f) := by
  induction parts with
  | nil => rfl
  | cons fs rest ih =>
      cases rest with
      | nil => rfl
      | cons gs more =>
          simp only [separated, List.map_append, List.map_cons, ih, hf separator]

theorem map_layPart {f : Fragment → Fragment} (hf : KeepsText f) (keyword : String)
    (fs : List Fragment) : (layPart keyword fs).map f = layPart keyword (fs.map f) := by
  cases fs with
  | nil => rfl
  | cons g rest => exact congrArg (· :: f g :: rest.map f) (hf keyword)

end Fragment

section Layout

variable (d : Dialect)

/-- A select list has no parameters. -/
theorem literal_laySelected (before : List Selected) (c : Selected) :
    Fragment.Literal (laySelected d before c) := by
  rcases c with ⟨e, c, _ | label⟩
  · simp only [laySelected]
    split
    · simp
    · split <;> simp
  · simp [laySelected]

theorem literal_laySelectList (before : List Selected)
    (list : List (Option Selected × Option String)) :
    ∀ fs ∈ laySelectList d before list, Fragment.Literal fs := by
  induction list generalizing before with
  | nil => simp [laySelectList]
  | cons entry rest ih =>
      intro fs hfs
      rcases entry with ⟨_ | c, _ | label⟩
      all_goals
        rcases List.mem_cons.mp hfs with rfl | hfs
        · first
            | exact literal_laySelected d before c
            | simp
        · exact ih _ fs hfs

theorem literal_layTexts (keyword : String) (parts : List String) :
    Fragment.Literal (layPart keyword (layTexts parts)) := by
  unfold layPart layTexts
  split <;> split <;> simp_all

end Layout

namespace Statement

/-- A statement binds the values of its conditions and of its page. -/
theorem boundParameters_eq (s : Statement) :
    s.boundParameters =
      (layPart " \nWHERE " (layConditions .sqlite s.conditions)).flatMap Fragment.bound ++
        (layPart " \nHAVING " (layConditions .sqlite s.groupConditions)).flatMap Fragment.bound ++
        (layPaging .sqlite s.limit s.offset).flatMap Fragment.bound := by
  have hselect : Fragment.Literal (Fragment.separated ", "
      (laySelectList .sqlite [] (selectList s.items))) :=
    Fragment.literal_separated (literal_laySelectList _ _ _)
  have htables := literal_layTexts " \nFROM " (s.trees.map (layTree .sqlite))
  have hgrouping := literal_layTexts " GROUP BY " (s.grouping.map (layTerm .sqlite))
  have hsorting := literal_layTexts " ORDER BY " (s.sorting.map (laySortKey .sqlite))
  show (layStatement .sqlite s).flatMap Fragment.bound = _
  simp only [Fragment.Literal] at hselect htables hgrouping hsorting
  simp [layStatement, Fragment.bound, hselect, htables, hgrouping, hsorting]

/-- Whether the store accepts every value that a statement compares with or counts by. -/
def BindsAll (s : Statement) : Prop := ∃ cells, bindAll s.boundParameters = .ok cells

/-! ## Conditions and names -/

/-- Names are accepted if none of them is ambiguous. -/
theorem checkNames_eq_ok {s : Statement} {cs : List ColumnRef} :
    s.checkNames cs = .ok () ↔ ∀ c ∈ cs, c.isAmbiguous s.sources = false := by
  unfold checkNames
  cases hfind : s.firstAmbiguous? cs with
  | none => simpa [firstAmbiguous?] using hfind
  | some c =>
      have hambiguous := List.find?_some hfind
      simpa using ⟨c, List.mem_of_find?_eq_some hfind, hambiguous⟩

/-- Columns are refused because one of them is ambiguous. -/
theorem exists_of_checkNames_eq_error {s : Statement} {cs : List ColumnRef} {f : Fault}
    (h : s.checkNames cs = .error f) :
    ∃ c : ColumnRef, f = .ambiguousColumn c.source.name c.column.name := by
  unfold checkNames at h
  cases hfind : s.firstAmbiguous? cs with
  | none =>
      rw [hfind] at h
      cases h
  | some c =>
      rw [hfind] at h
      cases h
      exact ⟨c, rfl⟩

/-! ## Refusals -/

theorem prepare_ne_noRow (p : Preparation) (v : Value) : prepare p v ≠ .error .noRow := by
  cases p <;> cases v <;>
    simp only [prepare, prepareReal, prepareBoolean, prepareDate, prepareTime, prepareDateTime, prepareBytes]
  -- What is left is a choice by a number at most.
  all_goals repeat' split
  all_goals simp

theorem bindCell_ne_noRow (position : Nat) (p : Preparation) (v : Value) :
    bindCell position p v ≠ .error .noRow := by
  cases v <;> simp only [bindCell]
  all_goals try split
  all_goals simp

theorem bindAll_ne_noRow (ps : List Parameter) : bindAll ps ≠ .error .noRow := by
  intro h
  rcases bind_eq_error.mp h with h | ⟨values, -, h⟩
  · obtain ⟨p, -, hp⟩ := mapM_eq_error h
    exact prepare_ne_noRow _ _ hp
  · obtain ⟨x, -, hx⟩ := mapM_eq_error h
    exact bindCell_ne_noRow _ _ _ hx

theorem checkNames_ne_noRow (s : Statement) (cs : List ColumnRef) :
    s.checkNames cs ≠ .error .noRow := by
  intro h
  obtain ⟨c, hc⟩ := exists_of_checkNames_eq_error h
  cases hc

/-- The store never refuses a statement for having no rows. -/
theorem check_ne_noRow (s : Statement) : s.check ≠ .error .noRow := by
  intro h
  unfold check at h
  rcases bind_eq_error.mp h with h | ⟨-, -, h⟩
  · obtain ⟨p, -, hp⟩ := forIn_prepare_eq_error h
    exact prepare_ne_noRow _ _ hp
  rcases bind_eq_error.mp h with h | ⟨-, -, h⟩
  · exact checkNames_ne_noRow _ _ h
  dsimp only at h
  split at h
  · cases h
  rcases bind_eq_error.mp h with h | ⟨-, -, h⟩
  · exact checkNames_ne_noRow _ _ h
  split at h
  · cases h
  rcases bind_eq_error.mp h with h | ⟨-, -, h⟩
  · exact checkNames_ne_noRow _ _ h
  rcases bind_eq_error.mp h with h | ⟨-, -, h⟩
  · exact bindAll_ne_noRow _ h
  · cases h

/-! ## Acceptance -/

variable {s : Statement}

/-- What is left to check of a statement whose values can be bound and whose conditions stand where they
may. -/
theorem check_eq (hvalues : s.BindsAll) (hgroup : s.groupConditions = [])
    (hrows : Clause.anyAggregates s.conditions = false) :
    s.check = (do
      s.checkNames (s.items.flatMap SelectItem.columns)
      s.checkNames (Clause.columnsOf s.conditions ++ s.joins.flatMap JoinStep.columns)) := by
  obtain ⟨cells, hcells⟩ := hvalues
  unfold check
  have hnone : s.checkNames [] = .ok () := rfl
  simp only [forIn_prepare hcells, hgroup, hrows, hcells, Clause.columnsOf, hnone, List.isEmpty_nil,
    Bool.not_true, Bool.and_false, Bool.false_eq_true, if_false]
  cases s.checkNames (s.items.flatMap SelectItem.columns) with
  | error f => rfl
  | ok u =>
      simp only [bind, Except.bind]
      cases s.checkNames (Clause.columnsOf s.conditions ++ s.joins.flatMap JoinStep.columns) <;> rfl

/-- A statement without conditions on groups is accepted exactly if its values can be bound, no condition on
rows counts them, and no column that it names is ambiguous. -/
theorem check_eq_ok (hgroup : s.groupConditions = []) :
    s.check = .ok () ↔
      s.BindsAll ∧ Clause.anyAggregates s.conditions = false ∧
        ∀ c ∈ s.items.flatMap SelectItem.columns ++
          (Clause.columnsOf s.conditions ++ s.joins.flatMap JoinStep.columns),
          c.isAmbiguous s.sources = false := by
  constructor
  · intro h
    -- The check binds last, so that it has passed everything else by then.
    have hvalues : s.BindsAll ∧ Clause.anyAggregates s.conditions = false := by
      unfold check at h
      obtain ⟨-, -, h⟩ := bind_eq_ok.mp h
      obtain ⟨-, -, h⟩ := bind_eq_ok.mp h
      simp only [hgroup, List.isEmpty_nil, Bool.not_true, Bool.and_false, Bool.false_eq_true,
        if_false] at h
      obtain ⟨-, -, h⟩ := bind_eq_ok.mp h
      split at h
      · cases h
      · rename_i hrows
        obtain ⟨-, -, h⟩ := bind_eq_ok.mp h
        obtain ⟨cells, hcells, -⟩ := bind_eq_ok.mp h
        exact ⟨⟨cells, hcells⟩, by simpa using hrows⟩
    refine ⟨hvalues.1, hvalues.2, ?_⟩
    rw [check_eq hvalues.1 hgroup hvalues.2] at h
    obtain ⟨u, hitems, hrest⟩ := bind_eq_ok.mp h
    intro c hc
    rcases List.mem_append.mp hc with hc | hc
    · exact checkNames_eq_ok.mp hitems c hc
    · exact checkNames_eq_ok.mp hrest c hc
  · rintro ⟨hvalues, hrows, hnames⟩
    rw [check_eq hvalues hgroup hrows,
      checkNames_eq_ok.mpr fun c hc => hnames c (List.mem_append_left _ hc)]
    exact checkNames_eq_ok.mpr fun c hc => hnames c (List.mem_append_right _ hc)

end Statement
end Criteria
