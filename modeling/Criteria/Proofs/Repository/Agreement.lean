import Criteria.Proofs.Query.Fetching
import Criteria.Proofs.Statement.Check
import Criteria.Proofs.Statement.Results

/-!
# The three ways to fetch agree

All results, a single one, and one or none are fetched from the same rows. Until rows are found the three
fail alike (`outcome_cases`), and then the number of results decides. It is taken from the list of results,
or, where a single value is asked for, from the rows, and either way the three classify a run in the same
way. Only fetching all results reports what is looked for, and so the three part where that cannot be written
(`fetches_agree`).
-/

namespace Criteria

/-! ## Faults about the number of results -/

/-- There is one fault for having no result. -/
theorem Fault.kind_eq_noResult {f : Fault} : f.kind = .noResult ↔ f = .noRow := by
  constructor
  · intro h
    cases f with
    | noRow => rfl
    | truncation why => cases why <;> cases h
    | document stage => cases stage <;> cases h
    | _ => cases h
  · rintro rfl
    rfl

/-- Loading never fails for having no rows. -/
theorem Query.loaded_ne_noRow (q : Query) (s : Session) : q.loaded s ≠ .error .noRow := by
  intro h
  unfold loaded at h
  split at h
  · rcases bind_eq_error.mp h with h | ⟨rows, -, h⟩
    · exact Statement.check_ne_noRow _ (Statement.run_eq_error.mp h)
    · split at h
      · cases h
      · split at h <;> cases h
  · cases h

/-! ## Outcomes that agree -/

/-- Outcomes of fetching all results, a single one, and one or none, that agree on a list of results. -/
structure AgreeOnList (all single oneOrNone : Except Fault Result) : Prop where
  /-- All results are never refused for their number. -/
  fault : ∀ f, all = .error f → f.kind ≠ .noResult
  list : ∀ r, all = .ok r → ∃ xs, r = .list xs
  none : all = .ok (.list []) ↔
    (∃ f, single = .error f ∧ f.kind = .noResult) ∧ oneOrNone = .ok (.value .null)
  one : ∀ x, all = .ok (.list [x]) → single = .ok x ∧ oneOrNone = .ok x
  several : ∀ xs, all = .ok (.list xs) → 2 ≤ xs.length →
    ∃ f, single = .error f ∧ oneOrNone = .error f ∧ f.kind = .nonUniqueResult ∧
      f.context = [("count", .int xs.length)]

/-- An outcome in which having no result is no fault. -/
def orNone (x : Except Fault Result) : Except Fault Result :=
  match x with
  | .error f => if f.kind = .noResult then .ok (.value .null) else .error f
  | .ok r => .ok r

/-- Outcomes that agree on a single value. -/
structure AgreeOnValue (all single oneOrNone : Except Fault Result) : Prop where
  single : single = all
  oneOrNone : oneOrNone = orNone all

/-- Outcomes of the three ways to fetch that agree, whatever form of results the query asks for. -/
structure FetchesAgree (query : Except Fault Query) (x : Fetch → Except Fault Result) : Prop where
  /-- A fault of fetching all results that is not about their number is the fault of the other two. -/
  fault : ∀ f, x .all = .error f → f.kind ≠ .noResult → x .single = .error f ∧ x .oneOrNone = .error f
  /-- Where results come as a list, there are none, one or several for all three alike. -/
  onList : ∀ q, query = .ok q → q.mode ≠ .singleScalar → AgreeOnList (x .all) (x .single) (x .oneOrNone)
  /-- Where a single value is asked for, the three have one outcome, except that none stands for no result. -/
  onValue : ∀ q, query = .ok q → q.mode = .singleScalar → AgreeOnValue (x .all) (x .single) (x .oneOrNone)

section Outcomes

variable {mode : Hydration} {f : Fault}

/-- Any fault but that of having no result may be common to the three. -/
theorem agreeOnList_of_error (hf : f ≠ .noRow) :
    AgreeOnList (.error f) (.error f) (.error f) where
  fault := by
    rintro _ ⟨⟩ hkind
    exact hf (Fault.kind_eq_noResult.mp hkind)
  list := by
    rintro r ⟨⟩
  none := by
    constructor
    · rintro ⟨⟩
    · rintro ⟨-, ⟨⟩⟩
  one := by
    rintro x ⟨⟩
  several := by
    rintro xs ⟨⟩

/-- Any fault but that of having no result is handed on. -/
theorem orNone_error (hf : f ≠ .noRow) : orNone (.error f) = .error f := by
  have hkind : f.kind ≠ .noResult := fun h => hf (Fault.kind_eq_noResult.mp h)
  simp only [orNone, if_neg hkind]

theorem agreeOnValue_of_error (hf : f ≠ .noRow) :
    AgreeOnValue (.error f) (.error f) (.error f) where
  single := rfl
  oneOrNone := (orNone_error hf).symm

/-- A fault is handed on, unless it is for having no result. -/
theorem select_error (hf : f ≠ .noRow) (fetch : Fetch) : fetch.select mode (.error f) = .error f := by
  cases fetch with
  | all | single => rfl
  | oneOrNone =>
      simp only [Fetch.select, Except.bind]
      split
      · rename_i h
        cases h
        exact absurd rfl hf
      · rfl

/-- Where no single value is asked for, rows come back as a list. -/
theorem exists_hydrate_eq_list (hmode : mode ≠ .singleScalar) (items : List SelectItem)
    (rows : List (List Element)) : ∃ xs, hydrate mode items rows = .ok (.list xs) := by
  cases mode with
  | singleScalar => exact absurd rfl hmode
  | array => exact ⟨_, rfl⟩
  | scalar => exact ⟨_, rfl⟩
  | object =>
      simp only [hydrate]
      split
      · exact ⟨_, rfl⟩
      · exact ⟨_, rfl⟩

/-- A single result out of a list is its only element. -/
theorem single_list (hmode : mode ≠ .singleScalar) (xs : List Result) :
    single mode (.list xs) =
      match xs with
      | [] => .error .noRow
      | [x] => .ok x
      | xs => .error (.severalResults xs.length) := by
  cases mode with
  | singleScalar => exact absurd rfl hmode
  | array | scalar | object => rcases xs with _ | ⟨x, _ | ⟨y, rest⟩⟩ <;> rfl

/-- What is selected from a list agrees on it. -/
theorem agreeOnList_of_list (hmode : mode ≠ .singleScalar) (xs : List Result) :
    AgreeOnList (Fetch.all.select mode (.ok (.list xs))) (Fetch.single.select mode (.ok (.list xs)))
      (Fetch.oneOrNone.select mode (.ok (.list xs))) := by
  simp only [Fetch.select, Except.bind, single_list hmode]
  rcases xs with _ | ⟨x, _ | ⟨y, rest⟩⟩
  · constructor <;> simp [Fault.kind]
  · constructor <;> simp
  · constructor <;> simp [Fault.kind, Fault.context]

/-- One or none is a single result, or none where there is no result. -/
theorem select_oneOrNone (mode : Hydration) (found : Except Fault Result) :
    Fetch.oneOrNone.select mode found = orNone (Fetch.single.select mode found) := by
  simp only [Fetch.select]
  cases found.bind (Criteria.single mode) with
  | ok r => rfl
  | error f =>
      by_cases hf : f = .noRow
      · subst hf
        rfl
      · rw [orNone_error hf]
        split
        · rename_i h
          cases h
          exact absurd rfl hf
        · rfl

/-- A single value has been picked already, so that all that is left to do is to take none for no result. -/
theorem agreeOnValue_of_select (found : Except Fault Result) :
    AgreeOnValue (Fetch.all.select .singleScalar found) (Fetch.single.select .singleScalar found)
      (Fetch.oneOrNone.select .singleScalar found) := by
  have hsingle : Fetch.single.select .singleScalar found = found := by
    cases found <;> rfl
  exact ⟨hsingle, by rw [select_oneOrNone, hsingle]; rfl⟩

end Outcomes

/-! ## Fetching -/

namespace Repository

/-- What fetching gives in a session. -/
def outcome (repo : Repository) (f : Fetch) (spec : Operand) (m : Option Modifier) (s : Session) :
    Except Fault Result :=
  (runFrom s (repo.find f spec m)).1

variable (repo : Repository) (spec : Operand) (m : Option Modifier) (s : Session)

/-- Either the three ways to fetch fail alike before there are rows, and not for having no result once the
query is built, or they select from the same rows. -/
theorem outcome_cases :
    (∃ fault, (∀ f, repo.outcome f spec m s = .error fault) ∧
      ∀ q, (repo.query spec m).1 = .ok q → fault ≠ .noRow) ∨
    ∃ q rows, (repo.query spec m).1 = .ok q ∧ ∀ f, repo.outcome f spec m s =
      f.select q.mode (hydrate q.mode q.statement.items rows) := by
  simp only [outcome, find_outcome]
  cases repo.hasSession with
  | false =>
      left
      refine ⟨.noSession, fun f => rfl, fun q hq => ?_⟩
      simp
  | true =>
      simp only [if_true]
      cases hq : (repo.query spec m).1 with
      | error fault =>
          left
          refine ⟨fault, fun f => rfl, fun q h => ?_⟩
          cases h
      | ok q =>
          cases hrows : q.loaded s with
          | error fault =>
              left
              refine ⟨fault, fun f => ?_, fun q' h => ?_⟩
              · simp only [Except.bind, hrows]
              · rintro rfl
                exact Query.loaded_ne_noRow q s hrows
          | ok rows =>
              right
              refine ⟨q, rows, rfl, fun f => ?_⟩
              simp only [Except.bind, hrows]

/-- What is found by the three ways agrees. -/
theorem found_agree : FetchesAgree (repo.query spec m).1 fun f => repo.outcome f spec m s := by
  rcases repo.outcome_cases spec m s with ⟨fault, hall, hbuilt⟩ | ⟨q, rows, hq, hall⟩
  · -- Nothing is selected, and the three have one fault.
    simp only [hall]
    refine ⟨?_, fun q hq _ => agreeOnList_of_error (hbuilt q hq), fun q hq _ => agreeOnValue_of_error (hbuilt q hq)⟩
    rintro f ⟨⟩ -
    exact ⟨rfl, rfl⟩
  · simp only [hall]
    refine ⟨fun f hf hkind => ?_, fun q' hq' hmode => ?_, fun q' hq' hmode => ?_⟩
    · have hfound : hydrate q.mode q.statement.items rows = .error f := hf
      have hne : f ≠ .noRow := fun h => hkind (Fault.kind_eq_noResult.mpr h)
      rw [hfound]
      exact ⟨select_error hne .single, select_error hne .oneOrNone⟩
    · obtain rfl := Except.ok.inj (hq.symm.trans hq')
      obtain ⟨xs, hxs⟩ := exists_hydrate_eq_list hmode q.statement.items rows
      rw [hxs]
      exact agreeOnList_of_list hmode xs
    · obtain rfl := Except.ok.inj (hq.symm.trans hq')
      rw [hmode]
      exact agreeOnValue_of_select _

/-- Once a query is built, one or none is the single result, or none where there is no result. -/
theorem outcome_oneOrNone {q : Query} (hq : (repo.query spec m).1 = .ok q) :
    repo.outcome .oneOrNone spec m s = orNone (repo.outcome .single spec m s) := by
  rcases repo.outcome_cases spec m s with ⟨fault, hall, hbuilt⟩ | ⟨q', rows, -, hall⟩
  · rw [hall, hall, orNone_error (hbuilt q hq)]
  · rw [hall, hall, select_oneOrNone]

/-! ## Writing down what is looked for -/

/-- What callers get by fetching in a session. -/
def fetched (repo : Repository) (spec : Operand) (m : Option Modifier) (s : Session) (f : Fetch) :
    Except Fault Result :=
  (runFrom s (repo.fetch f spec m)).1

/-- Whether a query is built for something that cannot be written down. -/
def Unwritten (repo : Repository) (spec : Operand) (m : Option Modifier) : Prop :=
  repo.hasSession = true ∧ spec.isWritable = false ∧ ∃ q, (repo.query spec m).1 = .ok q

/-- Before a query is built nothing is written, and what can be written is found. -/
theorem fetched_eq_outcome (h : ¬ repo.Unwritten spec m) (f : Fetch) :
    repo.fetched spec m s f = repo.outcome f spec m s := by
  by_cases hwritable : f = .all → spec.isWritable = true
  · rw [fetched, repo.fetch_eq_find hwritable, outcome]
  · obtain ⟨rfl, hunwritable⟩ := Classical.not_imp.mp hwritable
    rw [Bool.not_eq_true] at hunwritable
    rw [fetched, repo.fetch_outcome_of_unwritable hunwritable, outcome, find_outcome]
    cases hsession : repo.hasSession with
    | false => rfl
    | true =>
        cases hq : (repo.query spec m).1 with
        | error fault => rfl
        | ok q => exact absurd ⟨hsession, hunwritable, q, hq⟩ h

/-- **The three ways to fetch agree**, whatever the query and the modifier, in every session, unless a query is
built for something that cannot be written down. In that case fetching all results fails for this reason alone,
and the other two still agree with each other. -/
theorem fetches_agree :
    (¬ repo.Unwritten spec m → FetchesAgree (repo.query spec m).1 (repo.fetched spec m s)) ∧
    (repo.Unwritten spec m → repo.fetched spec m s .all = .error .tooManyDigits ∧
      repo.fetched spec m s .oneOrNone = orNone (repo.fetched spec m s .single)) := by
  constructor
  · intro h
    rw [funext (repo.fetched_eq_outcome spec m s h)]
    exact repo.found_agree spec m s
  · rintro ⟨hsession, hunwritable, q, hq⟩
    constructor
    · rw [fetched, repo.fetch_outcome_of_unwritable hunwritable, hsession, hq]
      rfl
    · have hfind : ∀ f : Fetch, f ≠ .all → repo.fetched spec m s f = repo.outcome f spec m s := by
        intro f hf
        rw [fetched, repo.fetch_eq_find fun hall => absurd hall hf, outcome]
      rw [hfind .oneOrNone (by decide), hfind .single (by decide)]
      exact repo.outcome_oneOrNone spec m s hq

def isEmptyList : Except Fault Result → Bool
  | .ok (.list []) => true
  | _ => false

theorem eq_of_isEmptyList {outcome : Except Fault Result} (h : isEmptyList outcome = true) :
    outcome = .ok (.list []) := by
  unfold isEmptyList at h
  split at h
  · rfl
  · cases h

def isTooLarge : Except Fault Result → Bool
  | .error .integerTooLarge => true
  | _ => false

theorem eq_of_isTooLarge {outcome : Except Fault Result} (h : isTooLarge outcome = true) :
    outcome = .error .integerTooLarge := by
  unfold isTooLarge at h
  split at h
  · rfl
  · cases h

def numbered (n : Nat) : Operand := .spec (.filter none "id" (.compare true .eq (.int n)))

def tooLong : Nat := Nat.pow 10 Value.digitLimit

/-- Where no user has a number, there is no single one, and one or none is none. A number that is too long to be
written is too large to be looked for as well, and fetching all users says the former, a single one the latter. -/
theorem no_user_fetched :
    let users : Repository := { entity := .user }
    let x (n : Nat) : Fetch → Except Fault Result := users.fetched (numbered n) none { database := .sample }
    ¬ users.Unwritten (numbered 99) none ∧
      (∃ f, x 99 .single = .error f ∧ f.kind = .noResult) ∧ x 99 .oneOrNone = .ok (.value .null) ∧
      users.Unwritten (numbered tooLong) none ∧
      x tooLong .all = .error .tooManyDigits ∧ x tooLong .single = .error .integerTooLarge := by
  intro users x
  have hbuilt : ∀ n, ∃ q, (users.query (numbered n) none).1 = .ok q ∧ q.mode = .object := fun n => ⟨_, rfl, rfl⟩
  have hwritable : (numbered 99).isWritable = true := by decide +kernel
  have hshort : ¬ users.Unwritten (numbered 99) none := by
    rintro ⟨-, hunwritable, -⟩
    rw [hwritable] at hunwritable
    cases hunwritable
  have hlong : users.Unwritten (numbered tooLong) none := by
    obtain ⟨q, hq, -⟩ := hbuilt tooLong
    exact ⟨rfl, by decide +kernel, q, hq⟩
  -- A short number: the three agree, so that the empty list decides about the other two.
  obtain ⟨hagree, -⟩ := fetches_agree users (numbered 99) none { database := .sample }
  obtain ⟨-, hpart⟩ := fetches_agree users (numbered tooLong) none { database := .sample }
  have hempty : x 99 .all = .ok (.list []) := by
    apply eq_of_isEmptyList
    decide +kernel
  obtain ⟨q, hq, hmode⟩ := hbuilt 99
  obtain ⟨hsingle, hnone⟩ := ((hagree hshort).onList q hq (by simp [hmode])).none.mp hempty
  refine ⟨hshort, hsingle, hnone, hlong, (hpart hlong).1, ?_⟩
  apply eq_of_isTooLarge
  decide +kernel

end Repository
end Criteria
