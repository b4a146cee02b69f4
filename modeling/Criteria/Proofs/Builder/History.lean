import Criteria.Proofs.Spec.Scope
import Mathlib.Data.List.Forall2

/-!
# The history of a builder

A builder is called again and again, and a call that fails is followed by others. `Builder.after` is the builder
that a list of calls leaves, and `Builder.joinsMade` lists the joins that were made on the way, also by a
specification that failed after them.

Each call lets a builder grow by the joins that it makes (`Builder.GrownBy`), and by nothing else that can be
reached by an alias. So aliases and statement tell the same history, whatever was called (`history_in_step`).
-/

namespace Criteria

/-! ## Joins -/

/-- A join that was made: of a field of what an alias stands for, under a new alias. -/
structure JoinMade where
  under : String
  field : String
  newAlias : String
  outer : Bool
  deriving DecidableEq, Repr

/-- What a builder reports about a join. -/
def JoinMade.event (m : JoinMade) : Event := .joined (m.under ++ "." ++ m.field) m.newAlias m.outer

namespace Change

def join? : Change → Option JoinMade
  | .join k under f n => some ⟨under, f, n, k.isOuter⟩
  | _ => none

/-- Those of several changes that are made before the first that fails. -/
def made (b : Builder) : List Change → List Change
  | [] => []
  | c :: rest =>
    match c.apply b with
    | .ok b' => c :: made b' rest
    | .error _ => []

end Change

namespace Builder

/-! ## Calls -/

/-- What a builder can be asked for. Clauses, keys and terms come from the caller. -/
inductive Call where
  | entity (under : String)
  | column (field under : String)
  | join (field newAlias under : String) (outer : Bool)
  | filterRows (c : Clause)
  | filterGroups (c : Clause)
  | orderBy (keys : List SortKey)
  | groupBy (terms : List Term)
  | limit (count : Value)
  | offset (count : Value)
  | distinct
  | apply (spec : Operand) (under : String)

namespace Call

/-- The step that a call makes. -/
def step : Call → Building Unit
  | .entity under => do
    let _ ← ask fun b => b.source under
  | .column field under => do
    let _ ← ask fun b => b.field field under
  | .join field newAlias under outer => Builder.join field newAlias under outer
  | .filterRows c => change fun s => s.addCondition c
  | .filterGroups c => change fun s => s.addGroupCondition c
  | .orderBy keys => change fun s => s.addSorting keys
  | .groupBy terms => change fun s => s.addGrouping terms
  | .limit count => Builder.limit count
  | .offset count => Builder.offset count
  | .distinct => Builder.distinct
  | .apply spec under => spec.apply under

/-- Whether a call makes one step only, which is made or not made. -/
def isSingle : Call → Bool
  | .apply _ _ => false
  | _ => true

def joins (b : Builder) : Call → List JoinMade
  | .join field newAlias under outer =>
    if (b.run (Builder.join field newAlias under outer)).1.isOk then [⟨under, field, newAlias, outer⟩] else []
  | .apply (.spec s) under => (Change.made b (s.changes under)).filterMap Change.join?
  | _ => []

end Call

/-- The builder that calls leave, whether or not they fail. -/
def after (b : Builder) (calls : List Call) : Builder := calls.foldl (fun b call => (b.run call.step).2) b

/-- The joins that calls make, in order. -/
def joinsMade (b : Builder) : List Call → List JoinMade
  | [] => []
  | call :: rest => call.joins b ++ joinsMade (b.run call.step).2 rest

theorem after_append (b : Builder) (calls more : List Call) :
    b.after (calls ++ more) = (b.after calls).after more := List.foldl_append

/-! ## Growing by joins -/

/-- Whether a join of the statement is the one that was made, between what its two aliases stand for. -/
structure JoinedAs (b : Builder) (m : JoinMade) (j : JoinStep) : Prop where
  start : b.source m.under = .ok j.left
  relationship : j.left.entity.relationship? m.field = some j.relationship
  target : j.target = .joined m.newAlias j.relationship.target
  reached : b.source m.newAlias = .ok j.target
  outer : j.outer = m.outer

/-- Whether a builder has come from another by some joins, and by changes of its statement that leave the
joins alone. -/
structure GrownBy (made : List JoinMade) (b b' : Builder) : Prop where
  root : b'.root = b.root
  rootAlias : b'.rootAlias = b.rootAlias
  steps : ∃ js, List.Forall₂ b'.JoinedAs made js ∧ b'.statement.joins = b.statement.joins ++ js ∧
    b'.aliases = b.aliases ++ js.map fun j => (j.target.name, j.target)
  trace : b'.trace = b.trace ++ made.map JoinMade.event
  inStep : b.InStep → b'.InStep

/-- What has been registered stays registered. -/
theorem GrownBy.source {made : List JoinMade} {b b' : Builder} (h : GrownBy made b b') {a : String}
    {s : Source} (hs : b.source a = .ok s) : b'.source a = .ok s := by
  obtain ⟨js, -, -, haliases⟩ := h.steps
  rw [source_eq_ok] at hs ⊢
  rw [haliases, List.lookup_append, hs]
  rfl

theorem JoinedAs.of_grownBy {made : List JoinMade} {b b' : Builder} {m : JoinMade} {j : JoinStep}
    (h : GrownBy made b b') (hj : b.JoinedAs m j) : b'.JoinedAs m j :=
  { hj with start := h.source hj.start, reached := h.source hj.reached }

/-- A change of the statement that leaves the joins alone is no growth. -/
theorem grownBy_changed (b : Builder) {f : Statement → Statement}
    (hf : (f b.statement).joins = b.statement.joins) : GrownBy [] b (b.changed f) where
  root := rfl
  rootAlias := rfl
  steps := ⟨[], .nil, by simp [hf], by simp⟩
  trace := by simp [changed]
  inStep hb := hb.changed hf

theorem grownBy_refl (b : Builder) : GrownBy [] b b where
  root := rfl
  rootAlias := rfl
  steps := ⟨[], .nil, by simp, by simp⟩
  trace := by simp
  inStep := id

/-- Growth composes, with the joins one after another. -/
theorem GrownBy.trans {made more : List JoinMade} {b b₁ b₂ : Builder} (h₁ : GrownBy made b b₁)
    (h₂ : GrownBy more b₁ b₂) : GrownBy (made ++ more) b b₂ where
  root := h₂.root.trans h₁.root
  rootAlias := h₂.rootAlias.trans h₁.rootAlias
  steps := by
    obtain ⟨js, hjs, hjoins, haliases⟩ := h₁.steps
    obtain ⟨ks, hks, hjoins₂, haliases₂⟩ := h₂.steps
    -- The earlier joins are still what they were, since no alias is ever bound again.
    have hearlier : List.Forall₂ b₂.JoinedAs made js := hjs.imp fun _ _ hj => hj.of_grownBy h₂
    refine ⟨js ++ ks, List.rel_append hearlier hks, ?_, ?_⟩
    · rw [hjoins₂, hjoins, List.append_assoc]
    · rw [haliases₂, haliases, List.map_append, List.append_assoc]
  trace := by rw [h₂.trace, h₁.trace, List.map_append, List.append_assoc]
  inStep := h₂.inStep ∘ h₁.inStep

/-- A join that can be made lets the builder grow by it. -/
theorem grownBy_afterJoin {b : Builder} {m : JoinMade} {j : JoinStep}
    (h : b.joinStep m.field m.newAlias m.under m.outer = .ok j) :
    GrownBy [m] b (b.afterJoin (m.under ++ "." ++ m.field) m.newAlias m.outer j) where
  root := rfl
  rootAlias := rfl
  steps := by
    obtain ⟨hnew, s, r, hs, hr, rfl⟩ := joinStep_eq_ok.mp h
    refine ⟨[⟨s, r, .joined m.newAlias r.target, m.outer⟩], ?_, rfl, rfl⟩
    refine .cons ⟨?_, hr, rfl, ?_, rfl⟩ .nil
    · simp [source_eq_ok, afterJoin, List.lookup_append, hs]
    · simp [source_eq_ok, afterJoin, List.lookup_append, hnew]
  trace := rfl
  inStep := by
    obtain ⟨kind, hkind⟩ : ∃ kind : JoinKind, kind.isOuter = m.outer := by
      cases m.outer
      · exact ⟨.join, rfl⟩
      · exact ⟨.left, rfl⟩
    refine Change.apply_inStep (c := .join kind m.under m.field m.newAlias) ?_
    rw [Change.apply, hkind, h]
    rfl

end Builder

/-! ### Specifications -/

namespace Change

/-- A change lets the builder grow by the join that it is. -/
theorem grownBy_of_apply {b b' : Builder} {c : Change} (h : c.apply b = .ok b') :
    Builder.GrownBy c.join?.toList b b' := by
  cases c with
  | join k under f n =>
      obtain ⟨j, hj, rfl⟩ := map_eq_ok.mp h
      exact Builder.grownBy_afterJoin (m := ⟨under, f, n, k.isOuter⟩) hj
  | having under child =>
      obtain ⟨c, -, rfl⟩ := map_eq_ok.mp h
      cases c <;> exact b.grownBy_changed rfl
  | distinct | countRows =>
      cases h
      exact b.grownBy_changed rfl
  | limit n | offset n | orderBy under f d | groupBy under f =>
      obtain ⟨x, -, rfl⟩ := map_eq_ok.mp h
      exact b.grownBy_changed rfl

/-- Changes let the builder grow by the joins among those that are made. -/
theorem grownBy_applyAll (b : Builder) (cs : List Change) :
    Builder.GrownBy ((made b cs).filterMap join?) b (applyAll b cs).2 := by
  induction cs generalizing b with
  | nil => exact b.grownBy_refl
  | cons c rest ih =>
      rw [made, applyAll]
      cases hc : c.apply b with
      | error f => exact b.grownBy_refl
      | ok b₁ =>
          have hfirst := grownBy_of_apply hc
          have hrest := hfirst.trans (ih b₁)
          simp only [List.filterMap_cons]
          cases hjoin : c.join? <;> simpa [hjoin] using hrest

end Change

/-- A specification lets the builder grow by the joins that it makes, whether or not it fails. -/
theorem Spec.grownBy_run_apply (b : Builder) (under : String) (s : Spec) :
    Builder.GrownBy ((Change.made b (s.changes under)).filterMap Change.join?) b
      (runFrom b (s.apply under)).2 := by
  have hchanges := Change.grownBy_applyAll b (s.changes under)
  rw [run_apply]
  rcases hall : Change.applyAll b (s.changes under) with ⟨f | u, b₁⟩
  · rw [hall] at hchanges
    exact hchanges
  · rw [hall] at hchanges
    cases hclause : s.clause? b₁ under with
    | error f => simpa [hclause] using hchanges
    | ok c =>
        have hcondition : Builder.GrownBy [] b₁
            (b₁.changed fun st => st.addOptional Statement.addCondition c) := by
          cases c <;> exact b₁.grownBy_changed rfl
        simpa [hclause] using hchanges.trans hcondition

namespace Builder

/-! ### Single calls -/

/-- Whether a call is made and lets the builder grow by the joins that it makes, or is refused, makes none and
changes nothing. -/
def MadeOrRefused (b : Builder) (call : Call) : Prop :=
  (∃ b', b.run call.step = (.ok (), b') ∧ GrownBy (call.joins b) b b') ∨
    ∃ f, b.run call.step = (.error f, b) ∧ call.joins b = []

/-- A call without joins asks the builder first, and what it does next cannot fail. -/
theorem madeOrRefused_of_ask {α : Type} {b : Builder} {call : Call} (hjoins : call.joins b = [])
    (question : Builder → Except Fault α) (next : α → Building Unit) (result : α → Builder)
    (hstep : call.step = ask question >>= next) (hnext : ∀ a, runFrom b (next a) = (.ok (), result a))
    (hgrown : ∀ a, GrownBy [] b (result a)) : b.MadeOrRefused call := by
  have hrun : b.run call.step = _ :=
    (congrArg (runFrom b) hstep).trans (Spec.runFrom_ask_bind b question next result hnext)
  cases ha : question b with
  | error f =>
      rw [ha] at hrun
      exact .inr ⟨f, hrun, hjoins⟩
  | ok a =>
      rw [ha] at hrun
      refine .inl ⟨result a, hrun, ?_⟩
      rw [hjoins]
      exact hgrown a

/-- A change of the statement that leaves the joins alone is always made. -/
theorem madeOrRefused_of_change {b : Builder} {call : Call} (hjoins : call.joins b = [])
    (f : Statement → Statement) (hstep : call.step = change f) (hf : ∀ s, (f s).joins = s.joins) :
    b.MadeOrRefused call := by
  have hrun : b.run call.step = (.ok (), b.changed f) :=
    (congrArg (runFrom b) hstep).trans (b.run_change f)
  refine .inl ⟨b.changed f, hrun, ?_⟩
  rw [hjoins]
  exact b.grownBy_changed (hf b.statement)

/-- A join is made under a fresh alias, or refused. -/
theorem madeOrRefused_join (b : Builder) (field newAlias under : String) (outer : Bool) :
    b.MadeOrRefused (.join field newAlias under outer) := by
  have hrun : b.run (Builder.join field newAlias under outer) = _ :=
    Spec.runFrom_ask_bind b (fun b => b.joinStep field newAlias under outer) _
      (b.afterJoin (under ++ "." ++ field) newAlias outer) fun _ => rfl
  cases hj : b.joinStep field newAlias under outer with
  | error f =>
      rw [hj] at hrun
      exact .inr ⟨f, hrun, by simp [Call.joins, hrun, Except.map, Except.isOk, Except.toBool]⟩
  | ok j =>
      rw [hj] at hrun
      refine .inl ⟨_, hrun, ?_⟩
      have hgrown := grownBy_afterJoin (m := ⟨under, field, newAlias, outer⟩) hj
      simpa [Call.joins, hrun, Except.map, Except.isOk, Except.toBool] using hgrown

/-- A call of one step is made, or refused without a trace. -/
theorem madeOrRefused_of_isSingle (b : Builder) {call : Call} (hsingle : call.isSingle = true) :
    b.MadeOrRefused call := by
  cases call with
  | apply spec under => cases hsingle
  | join field newAlias under outer => exact b.madeOrRefused_join field newAlias under outer
  -- A question leaves the builder as it is, whether or not it has an answer.
  | entity under =>
      exact madeOrRefused_of_ask rfl (fun b => b.source under) _ (fun _ => b) rfl (fun _ => rfl)
        fun _ => b.grownBy_refl
  | column field under =>
      exact madeOrRefused_of_ask rfl (fun b => b.field field under) _ (fun _ => b) rfl (fun _ => rfl)
        fun _ => b.grownBy_refl
  -- A count that cannot be read is refused before the statement is touched.
  | limit count =>
      exact madeOrRefused_of_ask rfl (fun _ => countOf count) _
        (fun n => b.changed fun s => { s with limit := n }) rfl (fun _ => rfl)
        fun _ => b.grownBy_changed rfl
  | offset count =>
      exact madeOrRefused_of_ask rfl (fun _ => countOf count) _
        (fun n => b.changed fun s => { s with offset := n }) rfl (fun _ => rfl)
        fun _ => b.grownBy_changed rfl
  -- Nothing refuses the other changes.
  | filterRows c => exact madeOrRefused_of_change rfl (fun s => s.addCondition c) rfl fun _ => rfl
  | filterGroups c => exact madeOrRefused_of_change rfl (fun s => s.addGroupCondition c) rfl fun _ => rfl
  | orderBy keys => exact madeOrRefused_of_change rfl (fun s => s.addSorting keys) rfl fun _ => rfl
  | groupBy terms => exact madeOrRefused_of_change rfl (fun s => s.addGrouping terms) rfl fun _ => rfl
  | distinct => exact madeOrRefused_of_change rfl (fun s => { s with distinct := true }) rfl fun _ => rfl

/-- Every call lets the builder grow by the joins that it makes. -/
theorem grownBy_run (b : Builder) (call : Call) : GrownBy (call.joins b) b (b.run call.step).2 := by
  by_cases hsingle : call.isSingle = true
  · rcases b.madeOrRefused_of_isSingle hsingle with ⟨b', hrun, hgrown⟩ | ⟨f, hrun, hnone⟩
    · rw [hrun]
      exact hgrown
    · rw [hrun, hnone]
      exact b.grownBy_refl
  · cases call with
    | apply spec under =>
        cases spec with
        | spec s => exact Spec.grownBy_run_apply b under s
        | foreign v => exact b.grownBy_refl
    | _ => exact absurd rfl hsingle

/-- Calls let the builder grow by the joins that they make. -/
theorem grownBy_after (b : Builder) (calls : List Call) : GrownBy (b.joinsMade calls) b (b.after calls) := by
  induction calls generalizing b with
  | nil => exact b.grownBy_refl
  | cons call rest ih => exact (b.grownBy_run call).trans (ih _)

/-! ## The history -/

/-- A builder whose aliases and statement tell of the joins that were made. -/
structure TellsOf (b : Builder) (root : Entity) (rootAlias : String) (made : List JoinMade) : Prop where
  start : b.root = root ∧ b.rootAlias = rootAlias
  resolved : b.source rootAlias = .ok (.table root)
  /-- The root alias is registered, and the new alias of every join. -/
  registered : b.aliases.map (·.1) = rootAlias :: made.map (·.newAlias)
  once : (b.aliases.map (·.1)).Nodup
  /-- The joins of the statement are those that were made, in order. -/
  joins : List.Forall₂ b.JoinedAs made b.statement.joins
  reported : b.trace = .builderCreated root rootAlias :: made.map JoinMade.event

/-- The new aliases of joins are the names of what they lead to. -/
theorem map_name_of_joinedAs {b : Builder} {made : List JoinMade} {js : List JoinStep}
    (h : List.Forall₂ b.JoinedAs made js) : js.map (fun j => j.target.name) = made.map (·.newAlias) := by
  induction h with
  | nil => rfl
  | cons hj hrest ih => rw [List.map_cons, List.map_cons, ih, hj.target]; rfl

/-- **Aliases and statement stay in step.** Whatever is called on a builder that starts without joins, and
whatever of it fails, the root alias stands for the root, the registered aliases are the root alias and those of
the joins that were made, each once, and the statement has these joins in order. What an alias stands for never
changes, and a single call that fails changes nothing. -/
theorem history_in_step (root : Entity) (rootAlias : String) (s : Statement) (hs : s.joins = [])
    (calls : List Call) :
    ((start root rootAlias s).after calls).TellsOf root rootAlias ((start root rootAlias s).joinsMade calls) ∧
      (∀ more a x, ((start root rootAlias s).after calls).source a = .ok x →
        ((start root rootAlias s).after (calls ++ more)).source a = .ok x) ∧
      ∀ (call : Call) f, call.isSingle = true → (((start root rootAlias s).after calls).run call.step).1 = .error f →
        (((start root rootAlias s).after calls).run call.step).2 = (start root rootAlias s).after calls := by
  have hgrown := grownBy_after (start root rootAlias s) calls
  have hstep := hgrown.inStep (start_inStep root rootAlias hs)
  refine ⟨⟨⟨hgrown.root, hgrown.rootAlias⟩, ?_, ?_, hstep.fresh, ?_, hgrown.trace⟩, ?_, ?_⟩
  · -- What the root alias stands for at the start outlives all growth.
    apply hgrown.source
    simp [source_eq_ok, start]
  · obtain ⟨js, hjs, -, haliases⟩ := hgrown.steps
    rw [haliases, ← map_name_of_joinedAs hjs]
    simp [start]
  · obtain ⟨js, hjs, hjoins, -⟩ := hgrown.steps
    rw [hjoins]
    simpa [start, hs] using hjs
  · -- Further calls are growth from where the first ones lead.
    intro more a x hx
    rw [after_append]
    exact (grownBy_after _ more).source hx
  · intro call f hsingle hfail
    rcases madeOrRefused_of_isSingle _ hsingle with ⟨b', hrun, -⟩ | ⟨f', hrun, -⟩
    · rw [hrun] at hfail
      cases hfail
    · rw [hrun]

/-- A join under a name in use fails and changes nothing. A specification fails behind its first join, which
stays, and the builder is used on. -/
theorem history_with_failures :
    (((start .user "e" (.ofEntity .user)).after [.join "posts" "p" "e" false]).run
        (Call.join "author" "p" "p" true).step).2 =
      (start .user "e" (.ofEntity .user)).after [.join "posts" "p" "e" false] ∧
    ((start .user "e" (.ofEntity .user)).after
      [.join "posts" "p" "e" false, .join "author" "p" "p" true,
        .apply (.spec (.conj [.join .left (some "p") "author" "a", .orderBy (some "x") "id" .ascending,
          .join .join none "posts" "q"])) "e",
        .limit (.int 3), .join "posts" "q" "a" true]).aliases.map (·.1) = ["e", "p", "a", "q"] := by
  constructor
  · obtain ⟨-, -, hfailed⟩ := history_in_step .user "e" (.ofEntity .user) rfl [.join "posts" "p" "e" false]
    exact hfailed (.join "author" "p" "p" true) (.aliasInUse "p") rfl (by rfl)
  · obtain ⟨htells, -, -⟩ := history_in_step .user "e" (.ofEntity .user) rfl
      [.join "posts" "p" "e" false, .join "author" "p" "p" true,
        .apply (.spec (.conj [.join .left (some "p") "author" "a", .orderBy (some "x") "id" .ascending,
          .join .join none "posts" "q"])) "e",
        .limit (.int 3), .join "posts" "q" "a" true]
    rw [htells.registered]
    decide +kernel

end Builder
end Criteria
