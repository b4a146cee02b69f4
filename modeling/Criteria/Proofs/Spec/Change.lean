import Criteria.Proofs.Running
import Criteria.Spec.Apply

/-!
# Applying a specification, change by change

What a specification does to a builder is a list of single changes, read off the tree depth first and
from left to right (`Spec.changes`). A change either fails and leaves the builder alone or gives a new
one (`Change.apply`), and `run_modify` says that a tree runs its changes up to the first that fails.
`run_apply` adds the condition of the whole tree behind them.
-/

namespace Criteria

/-! ## Single changes -/

/-- A change of a builder with its alias settled. -/
inductive Change where
  | join (kind : JoinKind) (under field newAlias : String)
  | limit (count : Value)
  | offset (count : Value)
  | orderBy (under field : String) (direction : SortDirection)
  | groupBy (under field : String)
  | distinct
  /-- The condition of a specification is put on groups. -/
  | having (under : String) (child : Spec)
  | countRows

/-- A statement with a condition, if there is one, added by `add`. -/
def Statement.addOptional (add : Statement → Clause → Statement) (s : Statement) :
    Option Clause → Statement
  | some c => add s c
  | none => s

namespace Builder

/-- The builder after a join along `path`. -/
def afterJoin (b : Builder) (path newAlias : String) (outer : Bool) (j : JoinStep) : Builder :=
  { b with
    statement := b.statement.addJoin j
    aliases := b.aliases ++ [(newAlias, j.target)]
    trace := b.trace ++ [.joined path newAlias outer] }

@[simp] theorem changed_aliases (b : Builder) (f : Statement → Statement) :
    (b.changed f).aliases = b.aliases := rfl

@[simp] theorem changed_statement (b : Builder) (f : Statement → Statement) :
    (b.changed f).statement = f b.statement := rfl

@[simp] theorem changed_root (b : Builder) (f : Statement → Statement) :
    (b.changed f).root = b.root := rfl

@[simp] theorem changed_rootAlias (b : Builder) (f : Statement → Statement) :
    (b.changed f).rootAlias = b.rootAlias := rfl

end Builder

namespace Change

/-- The builder that a change makes of one, or why it makes none. -/
def apply (b : Builder) : Change → Except Fault Builder
  | .join k under f n =>
    (b.joinStep f n under k.isOuter).map (b.afterJoin (under ++ "." ++ f) n k.isOuter)
  | .limit count => (Builder.countOf count).map fun n => b.changed fun s => { s with limit := n }
  | .offset count => (Builder.countOf count).map fun n => b.changed fun s => { s with offset := n }
  | .orderBy under f d => (Spec.sortKey b under f d).map fun k => b.changed fun s => s.addSorting [k]
  | .groupBy under f => (b.term f under).map fun t => b.changed fun s => s.addGrouping [t]
  | .distinct => .ok (b.changed fun s => { s with distinct := true })
  | .having under child => (child.clause? b under).map fun c =>
    b.changed fun s => s.addOptional Statement.addGroupCondition c
  | .countRows => .ok (b.changed Statement.countRows)

def applyAll (b : Builder) : List Change → Except Fault Unit × Builder
  | [] => (.ok (), b)
  | c :: rest =>
    match c.apply b with
    | .ok b' => applyAll b' rest
    | .error f => (.error f, b)

/-- Changes made one after another stop at the first that fails. -/
theorem applyAll_append (b : Builder) (cs ds : List Change) :
    applyAll b (cs ++ ds) =
      match applyAll b cs with
      | (.ok _, b') => applyAll b' ds
      | (.error f, b') => (.error f, b') := by
  induction cs generalizing b with
  | nil => rfl
  | cons c rest ih =>
      simp only [List.cons_append, applyAll]
      cases c.apply b with
      | error f => rfl
      | ok b' => exact ih b'

/-- Changes succeed if the first does and the others do after it. -/
theorem applyAll_cons_eq_ok {b b₂ : Builder} {c : Change} {cs : List Change} :
    applyAll b (c :: cs) = (.ok (), b₂) ↔
      ∃ b₁, c.apply b = .ok b₁ ∧ applyAll b₁ cs = (.ok (), b₂) := by
  rw [applyAll]
  cases c.apply b with
  | error f => simp
  | ok b' => simp

theorem applyAll_append_eq_ok {b b₂ : Builder} {cs ds : List Change} :
    applyAll b (cs ++ ds) = (.ok (), b₂) ↔
      ∃ b₁, applyAll b cs = (.ok (), b₁) ∧ applyAll b₁ ds = (.ok (), b₂) := by
  rw [applyAll_append]
  rcases applyAll b cs with ⟨f | u, b'⟩
  · simp
  · simp

/-- Changes fail with the first that fails, behind those before it. -/
theorem applyAll_eq_error {b b' : Builder} {cs : List Change} {f : Fault} :
    applyAll b cs = (.error f, b') ↔
      ∃ before c after, cs = before ++ c :: after ∧ applyAll b before = (.ok (), b') ∧ c.apply b' = .error f := by
  constructor
  · intro h
    induction cs generalizing b with
    | nil => cases h
    | cons c rest ih =>
        rw [applyAll] at h
        cases hc : c.apply b with
        | error g =>
            rw [hc] at h
            cases h
            exact ⟨[], c, rest, rfl, rfl, hc⟩
        | ok b₁ =>
            rw [hc] at h
            obtain ⟨before, d, after, rfl, hbefore, hd⟩ := ih h
            exact ⟨c :: before, d, after, rfl, applyAll_cons_eq_ok.mpr ⟨b₁, hc, hbefore⟩, hd⟩
  · rintro ⟨before, c, after, rfl, hbefore, hc⟩
    rw [applyAll_append, hbefore]
    simp only [applyAll, hc]

/-- What every change keeps, a list of changes keeps, also if one of them fails. -/
theorem applyAll_preserves {motive : Builder → Prop} {b b' : Builder} {cs : List Change}
    {outcome : Except Fault Unit}
    (step : ∀ c ∈ cs, ∀ b₁ b₂, Change.apply b₁ c = .ok b₂ → motive b₁ → motive b₂)
    (h : applyAll b cs = (outcome, b')) (hb : motive b) : motive b' := by
  induction cs generalizing b with
  | nil =>
      cases h
      exact hb
  | cons c rest ih =>
      rw [applyAll] at h
      cases hc : c.apply b with
      | error f =>
          rw [hc] at h
          cases h
          exact hb
      | ok b₁ =>
          rw [hc] at h
          exact ih (fun d hd => step d (List.mem_cons_of_mem _ hd)) h
            (step c List.mem_cons_self b b₁ hc hb)

end Change

/-! ## The changes of a tree -/

namespace Spec

mutual

/-- The changes that a specification makes under an alias, in order. -/
def changes (under : String) : Spec → List Change
  | .conj cs | .disj cs => changesAll under cs
  | .neg c => changes under c
  | .join k a f n => [.join k (effectiveAlias a under) f n]
  | .limit n => [.limit n]
  | .offset n => [.offset n]
  | .orderBy a f d => [.orderBy (effectiveAlias a under) f d]
  | .groupBy a f => [.groupBy (effectiveAlias a under) f]
  | .distinct => [.distinct]
  | .having c => changes under c ++ [.having under c]
  | .countOf (some c) => .countRows :: changes under c
  | .countOf none => [.countRows]
  | .named _ a c => changes (effectiveAlias a under) c
  | _ => []

def changesAll (under : String) : List Spec → List Change
  | [] => []
  | s :: rest => changes under s ++ changesAll under rest

end

@[simp] theorem changesAll_append (under : String) (cs ds : List Spec) :
    changesAll under (cs ++ ds) = changesAll under cs ++ changesAll under ds := by
  induction cs with
  | nil => rfl
  | cons c rest ih => simp [changesAll, ih]

/-! ## Running a tree -/

/-- A step that asks the builder and changes it by the answer is a single change. -/
theorem runFrom_ask_bind {α : Type} (b : Builder) (question : Builder → Except Fault α)
    (next : α → Building Unit) (after : α → Builder)
    (hnext : ∀ a, runFrom b (next a) = (.ok (), after a)) :
    runFrom b (Builder.ask question >>= next) =
      match (question b).map after with
      | .ok b' => (.ok (), b')
      | .error f => (.error f, b) := by
  rw [runFrom_bind, Builder.run_ask]
  cases question b with
  | error f => rfl
  | ok a => exact hnext a

/-- Adding the condition of a tree changes the statement by it. -/
theorem runFrom_addClause (add : Statement → Clause → Statement) (under : String) (s : Spec)
    (b : Builder) :
    runFrom b (addClause add under s) =
      match (s.clause? b under).map fun c => b.changed fun st => st.addOptional add c with
      | .ok b' => (.ok (), b')
      | .error f => (.error f, b) := by
  apply runFrom_ask_bind
  rintro (_ | c) <;> rfl

mutual

/-- A tree runs its changes in order, up to the first that fails. -/
theorem run_modify (under : String) (s : Spec) (b : Builder) :
    runFrom b (s.modify under) = Change.applyAll b (s.changes under) := by
  match s with
  | .conj cs | .disj cs => exact run_modifyAll under cs b
  | .neg c => exact run_modify under c b
  | .named _ a c => exact run_modify (effectiveAlias a under) c b
  | .countOf none => rfl
  | .countOf (some c) =>
      rw [modify, runFrom_bind_ok (Builder.run_change b _), run_modify under c]
      rfl
  | .having c =>
      rw [modify, changes, runFrom_bind, Change.applyAll_append, run_modify under c]
      rcases Change.applyAll b (changes under c) with ⟨f | u, b'⟩
      · rfl
      · exact runFrom_addClause _ under c b'
  | .join k a f n => exact runFrom_ask_bind b _ _ _ fun _ => rfl
  | .limit n => exact runFrom_ask_bind b _ _ _ fun _ => rfl
  | .offset n => exact runFrom_ask_bind b _ _ _ fun _ => rfl
  | .orderBy a f d => exact runFrom_ask_bind b _ _ _ fun _ => rfl
  | .groupBy a f => exact runFrom_ask_bind b _ _ _ fun _ => rfl
  | .distinct | .filter _ _ _ | .countAbove _ _ _ _ | .idle | .base _ | .namedForeign _ _ _ => rfl

theorem run_modifyAll (under : String) (cs : List Spec) (b : Builder) :
    runFrom b (modifyAll under cs) = Change.applyAll b (changesAll under cs) := by
  match cs with
  | [] => rfl
  | s :: rest =>
      rw [modifyAll, changesAll, runFrom_bind, Change.applyAll_append, run_modify under s]
      rcases Change.applyAll b (changes under s) with ⟨f | u, b'⟩
      · rfl
      · exact run_modifyAll under rest b'

end

/-! ## Applying a tree -/

/-- A tree is applied by its changes, then its condition on rows is added. -/
theorem run_apply (under : String) (s : Spec) (b : Builder) :
    runFrom b (s.apply under) =
      match Change.applyAll b (s.changes under) with
      | (.error f, b₁) => (.error f, b₁)
      | (.ok _, b₁) =>
        match s.clause? b₁ under with
        | .error f => (.error f, b₁)
        | .ok c => (.ok (), b₁.changed fun st => st.addOptional Statement.addCondition c) := by
  rw [Spec.apply, runFrom_bind, run_modify]
  rcases Change.applyAll b (s.changes under) with ⟨f | u, b₁⟩
  · rfl
  · simp only
    rw [runFrom_addClause]
    cases s.clause? b₁ under <;> rfl

/-- A tree is applied if its changes can be made and its condition can be built after them. -/
theorem run_apply_eq_ok {under : String} {s : Spec} {b b₂ : Builder} :
    runFrom b (s.apply under) = (.ok (), b₂) ↔
      ∃ b₁ c, Change.applyAll b (s.changes under) = (.ok (), b₁) ∧ s.clause? b₁ under = .ok c ∧
        b₂ = b₁.changed fun st => st.addOptional Statement.addCondition c := by
  rw [run_apply]
  constructor
  · intro h
    rcases hall : Change.applyAll b (s.changes under) with ⟨f | u, b₁⟩
    · rw [hall] at h
      cases h
    · rw [hall] at h
      simp only at h
      split at h
      · cases h
      · rename_i c hc
        cases h
        exact ⟨b₁, c, rfl, hc, rfl⟩
  · rintro ⟨b₁, c, hall, hc, rfl⟩
    rw [hall]
    simp only [hc]

/-- A tree fails with one of its changes, or with its condition after them. -/
theorem run_apply_eq_error {under : String} {s : Spec} {b b' : Builder} {f : Fault} :
    runFrom b (s.apply under) = (.error f, b') ↔
      Change.applyAll b (s.changes under) = (.error f, b') ∨
        Change.applyAll b (s.changes under) = (.ok (), b') ∧ s.clause? b' under = .error f := by
  rw [run_apply]
  rcases Change.applyAll b (s.changes under) with ⟨g | u, b₁⟩
  · simp
  · simp only
    cases hc : s.clause? b₁ under with
    | error g => grind
    | ok c => grind

/-! ## What conditions read -/

mutual

/-- The condition of a tree reads the aliases of a builder and not its statement. -/
theorem clause?_changed (b : Builder) (f : Statement → Statement) (under : String) (s : Spec) :
    s.clause? (b.changed f) under = s.clause? b under := by
  match s with
  | .conj cs | .disj cs => simp only [clause?, clauses_changed b f under cs]
  | .neg c => simp only [clause?, clause?_changed b f under c]
  | .countOf (some c) => exact clause?_changed b f under c
  | .named _ a c => exact clause?_changed b f (effectiveAlias a under) c
  | .filter _ _ _ | .countAbove _ _ _ _ | .join _ _ _ _ | .limit _ | .offset _ | .orderBy _ _ _
  | .groupBy _ _ | .distinct | .having _ | .countOf none | .idle | .base _ | .namedForeign _ _ _ => rfl

theorem clauses_changed (b : Builder) (f : Statement → Statement) (under : String) (cs : List Spec) :
    clauses (b.changed f) under cs = clauses b under cs := by
  match cs with
  | [] => rfl
  | s :: rest => simp only [clauses, clause?_changed b f under s, clauses_changed b f under rest]

end

end Spec
end Criteria
