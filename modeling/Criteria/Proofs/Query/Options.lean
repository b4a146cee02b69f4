import Criteria.Proofs.Query.Fetching

/-!
# Options of a query

Modifiers write options depth first and from left to right, and of several writes of one option the last counts
(`Repository.hasOption_of_query`). Nothing that a modifier does takes a query out of its session.
-/

namespace Criteria

/-! ## Writes -/

namespace Modifier

mutual

/-- The options that a modifier writes, in order. -/
def writes : Modifier → List (String × Value)
  | .options fields => fields
  | .collection items => writesAll items
  | _ => []

def writesAll : List Modifier → List (String × Value)
  | [] => []
  | m :: rest => writes m ++ writesAll rest

end

/-- What is last written to an option, if anything is. -/
def lastWrite? (m : Option Modifier) (name : String) : Option Value :=
  ((m.elim [] writes).reverse).lookup name

/-- Whether what is last written to an option counts as true. -/
def asks (m : Option Modifier) (name : String) : Bool := ((lastWrite? m name).map Value.truthy).getD false

end Modifier

namespace Query

/-! ## Options after writes -/

def written (os : List (String × Value)) (fields : List (String × Value)) : List (String × Value) :=
  fields.foldl (fun os f => setOption os f.1 f.2) os

theorem written_append (os fields more : List (String × Value)) :
    written os (fields ++ more) = written (written os fields) more := List.foldl_append

theorem lookup_cons_eq (name n : String) (w : Value) (os : List (String × Value)) :
    ((n, w) :: os).lookup name = if name = n then some w else os.lookup name := by
  by_cases h : name = n
  · simp [h]
  · have hne : (name == n) = false := beq_false_of_ne h
    simp [List.lookup_cons, hne, h]

/-- An option that is set has the value it is set to, and the others keep theirs. -/
theorem lookup_setOption (os : List (String × Value)) (name other : String) (v : Value) :
    (setOption os name v).lookup other = if other = name then some v else os.lookup other := by
  induction os with
  | nil => exact lookup_cons_eq other name v []
  | cons o rest ih =>
      obtain ⟨n, w⟩ := o
      rw [setOption]
      by_cases hn : n = name
      · subst hn
        by_cases h : other = n <;> simp [lookup_cons_eq, h]
      · rw [if_neg hn, lookup_cons_eq, lookup_cons_eq, ih]
        by_cases h : other = n
        · simp [h, hn]
        · simp [h]

/-- Of several writes of an option the last counts. -/
theorem lookup_written (os fields : List (String × Value)) (name : String) :
    (written os fields).lookup name = (fields.reverse.lookup name).or (os.lookup name) := by
  induction fields generalizing os with
  | nil => rfl
  | cons f rest ih =>
      obtain ⟨n, w⟩ := f
      rw [written, List.foldl_cons, ← written, ih, lookup_setOption, List.reverse_cons, List.lookup_append,
        lookup_cons_eq, List.lookup_nil, Option.or_assoc]
      by_cases h : name = n <;> simp [h]

end Query

/-! ## Modifiers -/

/-- A sequence that succeeds succeeds in its first step, and then in what follows. -/
theorem runFrom_bind_eq_ok {σ α : Type} {s t : σ} {step : ExceptT Fault (StateM σ) Unit}
    {next : Unit → ExceptT Fault (StateM σ) α} {a : α} (h : runFrom s (step >>= next) = (.ok a, t)) :
    ∃ s', runFrom s step = (.ok (), s') ∧ runFrom s' (next ()) = (.ok a, t) := by
  rw [runFrom_bind] at h
  rcases hstep : runFrom s step with ⟨f | u, s'⟩
  · rw [hstep] at h
    cases h
  · rw [hstep] at h
    exact ⟨s', rfl, h⟩

namespace Modifier

/-- Whether a query has come from another by writes to its options, and by nothing that takes it out of its
session. -/
structure Writes (fields : List (String × Value)) (q q' : Query) : Prop where
  options : q'.options = Query.written q.options fields
  inSession : q'.inSession = q.inSession

theorem writes_refl (q : Query) : Writes [] q q := ⟨rfl, rfl⟩

theorem Writes.trans {fields more : List (String × Value)} {q q₁ q₂ : Query} (h₁ : Writes fields q q₁)
    (h₂ : Writes more q₁ q₂) : Writes (fields ++ more) q q₂ where
  options := by rw [h₂.options, h₁.options, Query.written_append]
  inSession := h₂.inSession.trans h₁.inSession

theorem run_change (q : Query) (f : Query → Query) : runFrom q (change f) = (.ok (), f q) := rfl

/-- Rounding changes the statement of a query, or leaves the query alone where a moment cannot be rounded. -/
theorem run_round (seconds : Value) (q : Query) :
    runFrom q (apply (.round seconds)) =
      match q.statement.mapValuesM (roundBound seconds) with
      | .ok st => (.ok (), { q with statement := st })
      | .error f => (.error f, q) := by
  rw [apply, runFrom_bind_ok (runFrom_get q)]
  cases q.statement.mapValuesM (roundBound seconds) <;> rfl

mutual

/-- A modifier that is applied writes its options, in order, and stays in the session. -/
theorem writes_of_apply {m : Modifier} {q q' : Query} (h : runFrom q m.apply = (.ok (), q')) :
    Writes m.writes q q' := by
  match m with
  | .asArray | .asScalar | .asSingleScalar | .lookalike _ | .note _ _ | .options _ =>
      cases h
      exact ⟨rfl, rfl⟩
  | .round seconds =>
      rw [run_round] at h
      split at h
      · cases h
        exact ⟨rfl, rfl⟩
      · cases h
  | .collection items =>
      have hall : runFrom q (applyAll items) = (.ok (), q') := h
      exact writes_of_applyAll hall
  | .fail _ _ | .foreign _ => cases h

theorem writes_of_applyAll {ms : List Modifier} {q q' : Query}
    (h : runFrom q (applyAll ms) = (.ok (), q')) : Writes (writesAll ms) q q' := by
  match ms with
  | [] =>
      cases h
      exact writes_refl q
  | m :: rest =>
      rw [applyAll] at h
      cases hm : m.isGenuine with
      | false =>
          simp [hm] at h
      | true =>
          simp only [hm, Bool.not_true, Bool.false_eq_true, if_false] at h
          rw [runFrom_bind_ok (run_change q _)] at h
          obtain ⟨q₁, hfirst, hrest⟩ := runFrom_bind_eq_ok h
          -- What is reported on the way is no write.
          have hwrites := writes_of_apply hfirst
          exact Writes.trans ⟨hwrites.options, hwrites.inSession⟩ (writes_of_applyAll hrest)

end

end Modifier

namespace Repository

/-- **The last write of an option counts.** -/
theorem hasOption_of_query {repo : Repository} {spec : Operand} {m : Option Modifier} {q : Query}
    (h : (repo.query spec m).1 = .ok q) :
    (∀ name, q.hasOption name = Modifier.asks m name) ∧ q.inSession = repo.hasSession := by
  rcases hb : repo.builder spec none with ⟨f | u, b⟩
  · rw [query_of_builder_error m hb] at h
    cases h
  · let start : Query := { statement := b.statement, inSession := repo.hasSession, logSql := repo.logQueries }
    -- Between the builder's statement and the query there is only the modifier.
    have hwrites : Modifier.Writes (m.elim [] Modifier.writes) start q := by
      have hadjust : runFrom start (adjust m) = (.ok (), q) := by
        unfold query at h
        rw [hb] at h
        simp only at h
        split at h
        · cases h
        · rename_i hrun
          cases h
          exact hrun
      cases m with
      | none =>
          have hsame : start = q := congrArg Prod.snd hadjust
          exact hsame ▸ Modifier.writes_refl start
      | some m =>
          rw [adjust] at hadjust
          cases hm : m.isGenuine with
          | false => simp [hm] at hadjust
          | true =>
              simp only [hm, Bool.not_true, Bool.false_eq_true, if_false] at hadjust
              exact Modifier.writes_of_apply hadjust
    refine ⟨fun name => ?_, hwrites.inSession⟩
    rw [Query.hasOption, hwrites.options, Query.lookup_written, Modifier.asks, Modifier.lastWrite?]
    simp [start]

end Repository
end Criteria
