import Criteria.Proofs.Query.Fetching
import Criteria.Proofs.Statement.Results

/-!
# The forms of one list of rows

The four modes of hydration describe the same rows. `modes_describe_one_list` takes the list that a
query gives as scalars and says what the other modes make of it:

* as objects, it loses the later occurrences of an instance and nothing else;
* as maps, it is mapped element by element;
* as a single value, it has to have exactly one element.

Where rows have several elements, objects, maps and scalars are three views of one list of tuples.
-/

namespace Criteria

namespace Result

/-- Whether two results are one instance. Only entities are instances, known by their type and key. -/
def sameInstance : Result → Result → Bool
  | .entity e r, .entity f s => sameEntity e f r s
  | _, _ => false

@[simp] theorem sameInstance_value (r : Result) (v : Value) : sameInstance r (.value v) = false := by
  cases r <;> rfl

/-- A result inside a map: an entity as the map of its columns. -/
def inside : Result → Value
  | .entity e r => .ofFields (fieldsOf e r)
  | .value v => v
  | _ => .null

/-- The map of a row that consists of one result: of the columns of an entity, or of a value under its
key. -/
def mapOfOne (key : String) : Result → Value
  | .entity e r => .ofFields (fieldsOf e r)
  | r => .map [(.str key, r.inside)]

/-- The map of a row of several results, each under its key. -/
def mapOfSeveral (keys : List String) (items : List Result) : Value :=
  .map ((keys.zip items).foldl (fun m p => Value.insertEntry m (.str p.1) p.2.inside) [])

theorem inside_ofElement (a : Element) : (ofElement a).inside = valueOfElement a := by
  rcases a with ⟨e, _ | r⟩ | ⟨type, c⟩ <;> rfl

end Result

/-! ## Rows of one element -/

theorem exists_eq_map_singleton {α : Type} {rows : List (List α)}
    (h : ∀ row ∈ rows, row.length = 1) : ∃ as : List α, rows = as.map fun a => [a] := by
  induction rows with
  | nil => exact ⟨[], rfl⟩
  | cons row rest ih =>
      obtain ⟨a, rfl⟩ := List.length_eq_one_iff.mp (h row List.mem_cons_self)
      obtain ⟨as, rfl⟩ := ih fun r hr => h r (List.mem_cons_of_mem _ hr)
      exact ⟨a :: as, rfl⟩

section One

variable (item : SelectItem) (as : List Element)

/-- Dropping entities that appeared before is dropping repeated instances. -/
theorem dropRepeatedEntities_eq (seen : List (Entity × Record)) :
    (dropRepeatedEntities seen as).map Result.ofElement =
      ((as.map Result.ofElement).filter fun x =>
        !seen.any fun s => Result.sameInstance x (.entity s.1 s.2)).eraseDupsBy
          Result.sameInstance := by
  induction as generalizing seen with
  | nil => rfl
  | cons a rest ih =>
      rcases a with ⟨e, _ | r⟩ | ⟨type, c⟩
      case entity.some =>
        have hsame : (seen.any fun s => sameEntity s.1 e s.2 r) =
            seen.any fun s => Result.sameInstance (.entity e r) (.entity s.1 s.2) := by
          congr 1
          funext s
          simp only [Result.sameInstance, sameEntity, Bool.beq_comm]
        simp only [dropRepeatedEntities, List.map_cons, Result.ofElement, List.filter_cons, ← hsame]
        cases seen.any fun s => sameEntity s.1 e s.2 r with
        | true => simpa using ih seen
        | false =>
            simp only [Bool.false_eq_true, if_false, Bool.not_false, if_true, List.map_cons,
              Result.ofElement, List.eraseDupsBy_cons, List.filter_filter]
            rw [ih]
            congr 2
            apply List.filter_congr
            intro x _
            simp
      all_goals
        -- A value is never dropped, and nothing is dropped because of it.
        simp [dropRepeatedEntities, Result.ofElement, Result.sameInstance, List.eraseDupsBy_cons, ih]

theorem dropRepeatedEntities_nil :
    (dropRepeatedEntities [] as).map Result.ofElement =
      (as.map Result.ofElement).eraseDupsBy Result.sameInstance := by
  rw [dropRepeatedEntities_eq, List.filter_eq_self.mpr (by simp)]

theorem rowKeys_singleton : rowKeys [item] = [item.baseName] := by
  cases item <;> simp [rowKeys, rowKeys.go, SelectItem.baseName]

theorem rowMap_singleton (key : String) (a : Element) :
    rowMap [key] [a] = (Result.ofElement a).mapOfOne key := by
  rcases a with ⟨e, _ | r⟩ | ⟨type, c⟩ <;> rfl

theorem hydrate_scalar_one :
    hydrate .scalar [item] (as.map fun a => [a]) = .ok (.list (as.map Result.ofElement)) := by
  simp [hydrate, List.filterMap_map, Function.comp_def]

theorem hydrate_object_one :
    hydrate .object [item] (as.map fun a => [a]) =
      .ok (.list ((as.map Result.ofElement).eraseDupsBy Result.sameInstance)) := by
  have hflat : (as.map fun a => [a]).flatten = as := by
    simp [← List.flatMap_def]
  simp [hydrate, hflat, dropRepeatedEntities_nil]

theorem hydrate_array_one :
    hydrate .array [item] (as.map fun a => [a]) =
      .ok (.list ((as.map Result.ofElement).map fun x => .value (x.mapOfOne item.baseName))) := by
  simp [hydrate, rowKeys_singleton, rowMap_singleton, Function.comp_def]

theorem hydrate_singleScalar_one :
    hydrate .singleScalar [item] (as.map fun a => [a]) =
      match as.map Result.ofElement with
      | [] => .error .noRow
      | [x] => .ok x
      | _ => .error .severalRows := by
  rcases as with _ | ⟨a, _ | ⟨b, rest⟩⟩ <;> rfl

end One

/-! ## Rows of several elements -/

section Several

variable {items : List SelectItem} {rows : List (List Element)}

theorem hydrate_object_several (h : 2 ≤ items.length) :
    hydrate .object items rows =
      .ok (.list ((rows.map fun row => row.map Result.ofElement).map Result.tuple)) := by
  have hone : items.length ≠ 1 := by omega
  simp [hydrate, hone, Function.comp_def]

/-- The map of a row of several elements depends on their results only. -/
theorem rowMap_several (keys : List String) {row : List Element} (h : 2 ≤ row.length) :
    rowMap keys row = Result.mapOfSeveral keys (row.map Result.ofElement) := by
  have hfold : ∀ xs : List Element,
      (keys.zip xs).foldl
        (fun m p => Value.insertEntry m (.str p.1) (Result.valueOfElement p.2)) [] =
      (keys.zip (xs.map Result.ofElement)).foldl
        (fun m p => Value.insertEntry m (.str p.1) p.2.inside) [] := by
    intro xs
    rw [List.zip_map_right, List.foldl_map]
    simp [Result.inside_ofElement]
  match row, h with
  | a :: b :: rest, _ =>
      rw [Result.mapOfSeveral, ← hfold]
      rcases a with ⟨e, _ | r⟩ | ⟨type, c⟩ <;> rfl

theorem hydrate_array_several (h : ∀ row ∈ rows, 2 ≤ row.length) :
    hydrate .array items rows =
      .ok (.list ((rows.map fun row => row.map Result.ofElement).map fun t =>
        .value (Result.mapOfSeveral (rowKeys items) t))) := by
  simp only [hydrate, List.map_map]
  congr 2
  apply List.map_congr_left
  intro row hrow
  simp [rowMap_several _ (h row hrow)]

variable (items) in
/-- A row of several elements counts as its head. -/
theorem hydrate_scalar_several (h : ∀ row ∈ rows, 2 ≤ row.length) :
    ∃ heads, hydrate .scalar items rows = .ok (.list heads) ∧
      heads.map some = (rows.map fun row => row.map Result.ofElement).map List.head? := by
  refine ⟨_, rfl, ?_⟩
  induction rows with
  | nil => rfl
  | cons row rest ih =>
      have hrest := ih fun r hr => h r (List.mem_cons_of_mem _ hr)
      match row, h row List.mem_cons_self with
      | a :: b :: more, _ => simpa using hrest

end Several

/-! ## The modes of one query -/

namespace Query

/-- What a query gives in a session when it is asked for results in a mode. -/
def resultIn (q : Query) (mode : Hydration) (s : Session) : Except Fault Result :=
  (runFrom s ({ q with mode }.fetch .all)).1

theorem resultIn_eq (q : Query) (mode : Hydration) (s : Session) :
    q.resultIn mode s = (q.loaded s).bind fun rows => hydrate mode q.statement.items rows :=
  fetch_outcome _ _ _

/-- A row has an element for each item. -/
theorem length_of_mem_loaded {q : Query} {s : Session} {rows : List (List Element)}
    {row : List Element} (h : q.loaded s = .ok rows) (hrow : row ∈ rows) :
    row.length = q.statement.items.length := by
  unfold loaded at h
  split at h
  case isFalse => cases h
  case isTrue =>
    cases hrun : q.statement.run s.database with
    | error f => rw [hrun] at h; cases h
    | ok found =>
        rw [hrun] at h
        simp only [Except.bind] at h
        split at h
        · cases h
        · split at h
          · cases h
            exact Statement.length_of_mem_run hrun hrow
          · cases h
            obtain ⟨r, hr, rfl⟩ := List.mem_map.mp hrow
            simpa using Statement.length_of_mem_run hrun hr

/-- **The modes describe one list of rows.** A query whose rows have one element either fails alike in
every mode, or gives a list of scalars of which the other modes are views. A query whose rows have
several elements gives one list of tuples, and nothing is dropped from it. -/
theorem modes_describe_one_list (q : Query) (s : Session) :
    (∃ f, ∀ mode, q.resultIn mode s = .error f) ∨
    ∃ rows, q.loaded s = .ok rows ∧
      (∀ item, q.statement.items = [item] →
        ∃ found : List Result, found.length = rows.length ∧
          q.resultIn .scalar s = .ok (.list found) ∧
          q.resultIn .object s = .ok (.list (found.eraseDupsBy Result.sameInstance)) ∧
          q.resultIn .array s =
            .ok (.list (found.map fun x => .value (x.mapOfOne item.baseName))) ∧
          (∀ x, found = [x] → q.resultIn .singleScalar s = .ok x) ∧
          (found = [] → ∃ f, q.resultIn .singleScalar s = .error f ∧ f.kind = .noResult) ∧
          (2 ≤ found.length →
            ∃ f, q.resultIn .singleScalar s = .error f ∧ f.kind = .nonUniqueResult)) ∧
      (2 ≤ q.statement.items.length →
        ∃ tuples : List (List Result), tuples.length = rows.length ∧
          q.resultIn .object s = .ok (.list (tuples.map .tuple)) ∧
          q.resultIn .array s = .ok (.list (tuples.map fun t =>
            .value (Result.mapOfSeveral (rowKeys q.statement.items) t))) ∧
          ∃ heads, q.resultIn .scalar s = .ok (.list heads) ∧
            heads.map some = tuples.map List.head?) := by
  cases hload : q.loaded s with
  | error f =>
      left
      refine ⟨f, fun mode => ?_⟩
      rw [resultIn_eq, hload]
      rfl
  | ok rows =>
      right
      have hlen : ∀ row ∈ rows, row.length = q.statement.items.length :=
        fun row hrow => length_of_mem_loaded hload hrow
      have hresult : ∀ mode, q.resultIn mode s = hydrate mode q.statement.items rows := by
        intro mode
        rw [resultIn_eq, hload]
        rfl
      refine ⟨rows, rfl, ?_, ?_⟩
      · -- Rows of one element are the elements themselves.
        intro item hitem
        obtain ⟨as, rfl⟩ : ∃ as : List Element, rows = as.map fun a => [a] := by
          simp only [hitem, List.length_singleton] at hlen
          exact exists_eq_map_singleton hlen
        simp only [hresult, hitem, hydrate_scalar_one, hydrate_object_one, hydrate_array_one,
          hydrate_singleScalar_one]
        refine ⟨_, by simp, rfl, rfl, rfl, ?_, ?_, ?_⟩
        · intro x hx
          rw [hx]
        · intro hnil
          rw [hnil]
          exact ⟨_, rfl, rfl⟩
        · intro htwo
          match as.map Result.ofElement, htwo with
          | x :: y :: more, _ => exact ⟨_, rfl, rfl⟩
      · -- Of rows of several elements, scalars are the heads.
        intro htwo
        have hrows : ∀ row ∈ rows, 2 ≤ row.length := fun row hrow => hlen row hrow ▸ htwo
        obtain ⟨heads, hscalar, hheads⟩ := hydrate_scalar_several q.statement.items hrows
        simp only [hresult, hydrate_object_several htwo, hydrate_array_several hrows]
        exact ⟨_, by simp, rfl, rfl, heads, hscalar, hheads⟩

end Query
end Criteria
