import Criteria.Proofs.Query.Options

/-!
# Collections of modifiers

However deep collections are nested, applying one is applying its leaves, depth first and from left to right, up to
the first that is no result modifier or fails (`collection_runs_leaves`). Only what is reported on the way tells how
the leaves were grouped.
-/

namespace Criteria

namespace Query

/-! ## Queries without reports -/

/-- A query without what has been reported. -/
def quiet (q : Query) : Query := { q with trace := [] }

theorem quiet_eq_iff {q q' : Query} : q.quiet = q'.quiet ↔ ∃ trace, q' = { q with trace := trace } := by
  constructor
  · intro h
    refine ⟨q'.trace, ?_⟩
    obtain ⟨statement, inSession, mode, options, logSql, trace, notes⟩ := q
    obtain ⟨statement', inSession', mode', options', logSql', trace', notes'⟩ := q'
    simp only [quiet, Query.mk.injEq] at h
    obtain ⟨rfl, rfl, rfl, rfl, rfl, -, rfl⟩ := h
    rfl
  · rintro ⟨trace, rfl⟩
    rfl

/-! ## Names of options -/

end Query

namespace Modifier

/-! ## Leaves -/

mutual

/-- What a modifier consists of that is no collection, depth first and from left to right. -/
def leaves : Modifier → List Modifier
  | .collection items => leavesOf items
  | m => [m]

def leavesOf : List Modifier → List Modifier
  | [] => []
  | m :: rest => leaves m ++ leavesOf rest

end

/-- Whether a modifier is no collection. -/
def IsLeaf (m : Modifier) : Prop := ∀ items, m ≠ .collection items

theorem leaves_of_isLeaf {m : Modifier} (h : m.IsLeaf) : m.leaves = [m] := by
  cases m with
  | collection items => exact absurd rfl (h items)
  | _ => rfl

mutual

theorem isLeaf_of_mem_leaves {m leaf : Modifier} (h : leaf ∈ m.leaves) : leaf.IsLeaf := by
  match m with
  | .collection items => exact isLeaf_of_mem_leavesOf h
  | .asArray | .asScalar | .asSingleScalar | .round _ | .options _ | .note _ _ | .fail _ _ | .lookalike _
  | .foreign _ =>
      rw [List.mem_singleton.mp h]
      exact nofun

theorem isLeaf_of_mem_leavesOf {ms : List Modifier} {leaf : Modifier} (h : leaf ∈ leavesOf ms) :
    leaf.IsLeaf := by
  match ms with
  | [] => cases h
  | m :: rest =>
      rcases List.mem_append.mp h with h | h
      · exact isLeaf_of_mem_leaves h
      · exact isLeaf_of_mem_leavesOf h

end

/-- Applies a member of a collection. -/
def applyMember (m : Modifier) : Modifying Unit :=
  if m.isGenuine then apply m else throw (.foreignMember m.typeName)

/-- Applies members of a collection up to the first that is no result modifier or fails, and reports nothing. -/
def applyEach : List Modifier → Modifying Unit
  | [] => pure ()
  | m :: rest => do
    applyMember m
    applyEach rest

theorem applyEach_append (ms more : List Modifier) :
    applyEach (ms ++ more) = applyEach ms >>= fun _ => applyEach more := by
  induction ms with
  | nil => simp [applyEach]
  | cons m rest ih => simp only [List.cons_append, applyEach, ih, bind_assoc]

theorem applyEach_singleton (m : Modifier) : applyEach [m] = applyMember m := by
  simp [applyEach]

/-- Queries that differ in what has been reported at most. -/
def Quietly (q q' : Query) : Prop := q.quiet = q'.quiet

/-- No leaf reads what has been reported. -/
theorem apply_quietly {m : Modifier} (hm : m.IsLeaf) {q q' : Query} (h : Quietly q q') :
    RunsAlike Quietly (runFrom q m.apply) (runFrom q' m.apply) := by
  obtain ⟨trace, rfl⟩ := Query.quiet_eq_iff.mp h
  cases m with
  | round seconds =>
      rw [run_round, run_round]
      cases q.statement.mapValuesM (roundBound seconds) with
      | ok st => exact ⟨rfl, rfl⟩
      | error f => exact ⟨rfl, rfl⟩
  | collection items => exact absurd rfl (hm items)
  | _ => exact ⟨rfl, rfl⟩

mutual

/-- A result modifier does what its leaves do one after another. -/
theorem apply_leaves {m : Modifier} (hm : m.isGenuine) {q q' : Query} (h : Quietly q q') :
    RunsAlike Quietly (runFrom q m.apply) (runFrom q' (applyEach m.leaves)) := by
  match m with
  | .collection items => exact applyAll_leaves items h
  | .asArray | .asScalar | .asSingleScalar | .round _ | .options _ | .note _ _ | .fail _ _ =>
      show RunsAlike _ _ (runFrom q' (applyEach [_]))
      rw [applyEach_singleton, applyMember, if_pos hm]
      refine apply_quietly ?_ h
      exact nofun

/-- So do the members of a collection. -/
theorem applyAll_leaves (ms : List Modifier) {q q' : Query} (h : Quietly q q') :
    RunsAlike Quietly (runFrom q (applyAll ms)) (runFrom q' (applyEach (leavesOf ms))) := by
  match ms with
  | [] => exact ⟨rfl, h⟩
  | m :: rest =>
      rw [applyAll, leavesOf, applyEach_append]
      cases hm : m.isGenuine with
      | false =>
          -- What is no result modifier is no collection either, and is refused before all that follows.
          have hleaf : m.IsLeaf := by
            rintro items rfl
            cases hm
          rw [leaves_of_isLeaf hleaf, applyEach_singleton, applyMember, hm]
          exact ⟨rfl, h⟩
      | true =>
          simp only [Bool.not_true, Bool.false_eq_true, if_false]
          rw [runFrom_bind_ok (run_change q _)]
          exact RunsAlike.bind (apply_leaves hm h) fun _ _ _ hlater => applyAll_leaves rest hlater

end

/-- Why a run ends at a modifier, which leaves the query as it is. -/
inductive StopsAt (q : Query) : Modifier → Fault → Prop where
  | foreign {m : Modifier} (h : m.isGenuine = false) : StopsAt q m (.foreignMember m.typeName)
  | failed {m : Modifier} {f : Fault} (genuine : m.isGenuine) (fails : runFrom q m.apply = (.error f, q)) :
      StopsAt q m f

/-- The outcome of a run that has left a query, with what is left to be applied. -/
def EndsBefore (rest : List Modifier) (reached : Query) (outcome : Except Fault Unit) : Prop :=
  match rest with
  | [] => outcome = .ok ()
  | m :: _ => ∃ f, StopsAt reached m f ∧ outcome = .error f

/-- The step that a modifier rounds by. -/
def rounding? : Modifier → Option Value
  | .round seconds => some seconds
  | _ => none

/-- The mode that a modifier asks for. -/
def mode? : Modifier → Option Hydration
  | .asArray => some .array
  | .asScalar => some .scalar
  | .asSingleScalar => some .singleScalar
  | _ => none

/-- The name that a modifier notes. -/
def note? : Modifier → Option String
  | .note _ name => some name
  | _ => none

/-- A statement rounded by several steps, in order. -/
def roundedBy (steps : List Value) (st : Statement) : Except Fault Statement :=
  steps.foldlM (fun st seconds => st.mapValuesM (roundBound seconds)) st

/-- What some leaves have done to a query. -/
structure Effect (ms : List Modifier) (q q' : Query) : Prop where
  /-- The statement has been rounded by each of the steps in order. -/
  statement : roundedBy (ms.filterMap rounding?) q.statement = .ok q'.statement
  /-- The last mode that has been asked for counts. -/
  mode : q'.mode = (ms.filterMap mode?).getLast?.getD q.mode
  /-- The options have been written in order. -/
  options : q'.options = Query.written q.options (ms.flatMap writes)
  /-- What has been noted stands behind the notes in order. -/
  notes : q'.notes = q.notes ++ ms.filterMap note?
  inSession : q'.inSession = q.inSession
  logSql : q'.logSql = q.logSql

/-- Effects compose. -/
theorem Effect.trans {ms more : List Modifier} {q next q' : Query} (h : Effect ms q next)
    (hmore : Effect more next q') : Effect (ms ++ more) q q' where
  statement := by
    rw [roundedBy, List.filterMap_append, List.foldlM_append]
    exact bind_eq_ok.mpr ⟨next.statement, h.statement, hmore.statement⟩
  mode := by
    rw [hmore.mode, h.mode, List.filterMap_append, List.getLast?_append]
    cases (more.filterMap mode?).getLast? <;> rfl
  options := by
    rw [hmore.options, h.options, List.flatMap_append, Query.written_append]
  notes := by
    rw [hmore.notes, h.notes, List.filterMap_append, List.append_assoc]
  inSession := hmore.inSession.trans h.inSession
  logSql := hmore.logSql.trans h.logSql

/-- What is no result modifier is refused by the name of its type. -/
theorem EndsBefore.refused {rest : List Modifier} {reached : Query} {outcome : Except Fault Unit}
    (h : EndsBefore rest reached outcome) {leaf : Modifier} {later : List Modifier} (hrest : rest = leaf :: later)
    (hforeign : leaf.isGenuine = false) :
    ∃ f, outcome = .error f ∧ f.kind = .invalidArgument ∧ f.context = [("child_type", .str leaf.typeName)] := by
  subst hrest
  obtain ⟨f, hstops, rfl⟩ := h
  cases hstops with
  | foreign _ => exact ⟨_, rfl, rfl, rfl⟩
  | failed genuine _ =>
      rw [hforeign] at genuine
      cases genuine

end Modifier
end Criteria
