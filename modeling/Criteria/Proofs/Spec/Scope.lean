import Criteria.Proofs.Spec.Change

/-!
# Aliases and joins

A specification extends a scope: what its aliases stand for, and how their sources are joined. `Spec.scope`
reads the scope off the tree, and `scope_of_applyAll` says that a builder registers exactly that. Whatever
is done to a builder, its aliases stay in step with the joins of its statement (`Builder.InStep`): each join
starts at a source that is there and leads to a new one.
-/

namespace Criteria

/-! ## Fields -/

theorem owner_of_relationship? {e : Entity} {name : String} {r : Relationship}
    (h : e.relationship? name = some r) : r.owner = e ∧ r.name = name := by
  have hr := List.find?_some h
  simpa using hr

/-- No column has the name of a relationship, so that a relationship is found by its name. -/
theorem field?_eq_relationship {e : Entity} {name : String} {r : Relationship} :
    e.field? name = some (.relationship r) ↔ e.relationship? name = some r := by
  constructor
  · intro h
    unfold Entity.field? at h
    split at h
    · cases h
    · rename_i r' _ hr
      cases h
      exact hr
    · split at h <;> cases h
  · intro h
    obtain ⟨rfl, rfl⟩ := owner_of_relationship? h
    cases r <;> decide

/-- Plain attributes go by their names. -/
theorem contains_of_field?_eq_plain {e : Entity} {name : String} {a : Attribute}
    (h : e.field? name = some (.plain a)) : plainFields.contains name = true := by
  unfold Entity.field? at h
  split at h
  · cases h
  · cases h
  · split at h
    · assumption
    · cases h

/-! ## Scopes -/

/-- What aliases stand for, in the order in which they were introduced, and the joins behind them. -/
structure Scope where
  names : List (String × Source)
  joins : List JoinStep

namespace Scope

def ofRoot (rootAlias : String) (root : Entity) : Scope := ⟨[(rootAlias, .table root)], []⟩

/-- The scope with a relationship of a known source joined under a new alias. -/
def join (sc : Scope) (kind : JoinKind) (under field newAlias : String) : Option Scope :=
  match sc.names.lookup newAlias, sc.names.lookup under with
  | none, some left =>
    (left.entity.relationship? field).map fun r =>
      let target : Source := .joined newAlias r.target
      ⟨sc.names ++ [(newAlias, target)], sc.joins ++ [⟨left, r, target, kind.isOuter⟩]⟩
  | _, _ => none

/-- The sources of a scope whose root is `root`. -/
def sources (sc : Scope) (root : Entity) : List Source := .table root :: sc.joins.map (·.target)

end Scope

namespace Spec

mutual

/-- The scope that a specification makes of one, visited depth first and from left to right; none if a
join cannot be made. -/
def scope (under : String) : Spec → Scope → Option Scope
  | .conj cs, sc | .disj cs, sc => scopeAll under cs sc
  | .neg c, sc | .having c, sc | .countOf (some c), sc => scope under c sc
  | .named _ a c, sc => scope (effectiveAlias a under) c sc
  | .join k a f n, sc => sc.join k (effectiveAlias a under) f n
  | _, sc => some sc

def scopeAll (under : String) : List Spec → Scope → Option Scope
  | [], sc => some sc
  | s :: rest, sc => (scope under s sc).bind (scopeAll under rest)

end

end Spec

/-! ## The scope of a builder -/

namespace Builder

/-- What a builder has registered and joined. -/
def scope (b : Builder) : Scope := ⟨b.aliases, b.statement.joins⟩

theorem source_eq_ok {b : Builder} {under : String} {s : Source} :
    b.source under = .ok s ↔ b.aliases.lookup under = some s := by
  unfold source
  cases b.aliases.lookup under <;> simp

/-- A field is found under an alias that is known, on the entity that it stands for. -/
theorem field_eq_ok {b : Builder} {name under : String} {s : Source} {f : Field} :
    b.field name under = .ok (s, f) ↔
      b.aliases.lookup under = some s ∧ s.entity.field? name = some f := by
  rw [← source_eq_ok]
  unfold field
  cases b.source under with
  | error fault => simp [bind, Except.bind]
  | ok s' =>
      simp only [bind, Except.bind, Except.ok.injEq]
      cases hf : s'.entity.field? name with
      | none => grind
      | some f' => grind

/-- A join can be made from a known alias along a relationship to a new alias. -/
theorem joinStep_eq_ok {b : Builder} {name newAlias under : String} {outer : Bool} {j : JoinStep} :
    b.joinStep name newAlias under outer = .ok j ↔
      b.aliases.lookup newAlias = none ∧ ∃ s r, b.aliases.lookup under = some s ∧
        s.entity.relationship? name = some r ∧ j = ⟨s, r, .joined newAlias r.target, outer⟩ := by
  unfold joinStep
  cases b.aliases.lookup newAlias with
  | some x => simp [bind, Except.bind, throw, throwThe, MonadExceptOf.throw]
  | none =>
      simp only [Option.isSome_none, Bool.false_eq_true, if_false, bind, Except.bind, true_and]
      constructor
      · intro h
        split at h
        · cases h
        · rename_i x hx
          split at h
          · rename_i s r
            obtain ⟨hs, hr⟩ := field_eq_ok.mp hx
            cases h
            exact ⟨s, r, hs, field?_eq_relationship.mp hr, rfl⟩
          · cases h
      · rintro ⟨s, r, hs, hr, rfl⟩
        rw [field_eq_ok.mpr ⟨hs, field?_eq_relationship.mpr hr⟩]

end Builder

/-! ## Changes and scopes -/

namespace Change

/-- What a change makes of a scope: only joins count. -/
def scope (sc : Scope) : Change → Option Scope
  | .join k under f n => sc.join k under f n
  | _ => some sc

/-- A change that is made changes the scope by its join, if it is one. -/
theorem scope_of_apply {b b' : Builder} {c : Change} (h : c.apply b = .ok b') :
    c.scope b.scope = some b'.scope := by
  cases c with
  | join k under f n =>
      obtain ⟨j, hj, rfl⟩ := map_eq_ok.mp h
      obtain ⟨hnew, s, r, hs, hr, rfl⟩ := Builder.joinStep_eq_ok.mp hj
      simp [scope, Scope.join, Builder.scope, hnew, hs, hr, Builder.afterJoin, Statement.addJoin]
  | having under child =>
      obtain ⟨c, -, rfl⟩ := map_eq_ok.mp h
      cases c <;> rfl
  | distinct | countRows =>
      cases h
      rfl
  | limit n | offset n | orderBy under f d | groupBy under f =>
      obtain ⟨x, -, rfl⟩ := map_eq_ok.mp h
      rfl

/-- The scope that several changes make of one. -/
def scopeOf (sc : Scope) (cs : List Change) : Option Scope := cs.foldlM scope sc

@[simp] theorem scopeOf_nil (sc : Scope) : scopeOf sc [] = some sc := rfl

@[simp] theorem scopeOf_singleton (sc : Scope) (c : Change) : scopeOf sc [c] = c.scope sc := by
  simp [scopeOf]

theorem scopeOf_append (sc : Scope) (cs ds : List Change) :
    scopeOf sc (cs ++ ds) = (scopeOf sc cs).bind fun sc' => scopeOf sc' ds := by
  simp only [scopeOf, List.foldlM_append]
  rfl

theorem scopeOf_applyAll {b b' : Builder} {cs : List Change} (h : applyAll b cs = (.ok (), b')) :
    scopeOf b.scope cs = some b'.scope := by
  induction cs generalizing b with
  | nil =>
      cases h
      rfl
  | cons c rest ih =>
      obtain ⟨b₁, hc, hrest⟩ := applyAll_cons_eq_ok.mp h
      rw [← List.singleton_append, scopeOf_append, scopeOf_singleton, scope_of_apply hc]
      exact ih hrest

end Change

namespace Spec

mutual

/-- The scope of a tree is that of its changes. -/
theorem scope_eq (under : String) (s : Spec) (sc : Scope) :
    s.scope under sc = Change.scopeOf sc (s.changes under) := by
  match s with
  | .conj cs | .disj cs => exact scopeAll_eq under cs sc
  | .neg c => exact scope_eq under c sc
  | .named _ a c => exact scope_eq (effectiveAlias a under) c sc
  | .having c =>
      rw [scope, changes, Change.scopeOf_append, scope_eq under c]
      simp [Change.scope]
  | .countOf (some c) =>
      rw [scope, changes, scope_eq under c, ← List.singleton_append, Change.scopeOf_append]
      simp [Change.scope]
  | .join k a f n => simp [scope, changes, Change.scope]
  | .limit _ | .offset _ | .orderBy _ _ _ | .groupBy _ _ | .distinct | .countOf none
  | .filter _ _ _ | .countAbove _ _ _ _ | .idle | .base _ | .namedForeign _ _ _ =>
      simp [scope, changes, Change.scope]

theorem scopeAll_eq (under : String) (cs : List Spec) (sc : Scope) :
    scopeAll under cs sc = Change.scopeOf sc (changesAll under cs) := by
  match cs with
  | [] => rfl
  | s :: rest =>
      rw [scopeAll, changesAll, Change.scopeOf_append, scope_eq under s]
      congr 1
      funext sc'
      exact scopeAll_eq under rest sc'

end

/-- A builder registers and joins what the scope of the tree says. -/
theorem scope_of_applyAll {under : String} {s : Spec} {b b' : Builder}
    (h : Change.applyAll b (s.changes under) = (.ok (), b')) :
    s.scope under b.scope = some b'.scope := by
  rw [scope_eq, Change.scopeOf_applyAll h]

end Spec

/-! ## Linked joins -/

/-- Joins that start at the root or at what an earlier one leads to, each to a new source. -/
inductive Linked (root : Source) : List JoinStep → Prop where
  | nil : Linked root []
  | snoc {js : List JoinStep} {left : Source} {r : Relationship} {name : String} {outer : Bool}
      (before : Linked root js) (start : left ∈ root :: js.map (·.target))
      (owner : r.owner = left.entity) (fresh : .joined name r.target ∉ js.map (·.target)) :
      Linked root (js ++ [⟨left, r, .joined name r.target, outer⟩])

namespace Builder

/-- The aliases of a builder are the root alias and those of its joins, each registered once. -/
structure InStep (b : Builder) : Prop where
  aliases : b.aliases = (b.rootAlias, .table b.root) ::
    b.statement.joins.map fun j => (j.target.name, j.target)
  fresh : (b.aliases.map (·.1)).Nodup
  linked : Linked (.table b.root) b.statement.joins

/-- A builder on a statement without joins starts in step. -/
theorem start_inStep (root : Entity) (under : String) {s : Statement} (hs : s.joins = []) :
    (start root under s).InStep where
  aliases := by simp [start, hs]
  fresh := by simp [start]
  linked := by
    show Linked (.table root) s.joins
    rw [hs]
    exact .nil

theorem ofEntity_inStep (root : Entity) (under : String) : (ofEntity root under).InStep :=
  start_inStep root under rfl

/-- What an alias of a builder in step stands for is the root or was joined. -/
theorem InStep.mem_sources {b : Builder} (hb : b.InStep) {under : String} {s : Source}
    (h : b.aliases.lookup under = some s) :
    s ∈ .table b.root :: b.statement.joins.map (·.target) := by
  have hmem : s ∈ b.aliases.map (·.2) := by
    obtain ⟨before, after, heq, -⟩ := List.lookup_eq_some_iff.mp h
    simp [heq]
  rw [hb.aliases] at hmem
  simpa [Function.comp_def] using hmem

/-- Only the statement's joins matter for being in step. -/
theorem InStep.changed {b : Builder} (hb : b.InStep) {f : Statement → Statement}
    (hf : (f b.statement).joins = b.statement.joins) : (b.changed f).InStep where
  aliases := by simpa [hf] using hb.aliases
  fresh := hb.fresh
  linked := by simpa [hf] using hb.linked

end Builder

/-- Every change keeps aliases and joins in step. -/
theorem Change.apply_inStep {b b' : Builder} {c : Change} (h : c.apply b = .ok b')
    (hb : b.InStep) : b'.InStep := by
  cases c with
  | join k under f n =>
      obtain ⟨j, hj, rfl⟩ := map_eq_ok.mp h
      obtain ⟨hnew, s, r, hs, hr, rfl⟩ := Builder.joinStep_eq_ok.mp hj
      have hfresh : n ∉ b.aliases.map (·.1) := by
        rintro hmem
        obtain ⟨p, hp, rfl⟩ := List.mem_map.mp hmem
        simpa using List.lookup_eq_none_iff.mp hnew p hp
      -- A join to a source of this name would have registered the name.
      have htargets : Source.joined n r.target ∉ b.statement.joins.map (·.target) := by
        intro hmem
        obtain ⟨j, hj, htarget⟩ := List.mem_map.mp hmem
        apply hfresh
        rw [hb.aliases]
        refine List.mem_map.mpr ⟨(j.target.name, j.target), ?_, ?_⟩
        · exact List.mem_cons_of_mem _ (List.mem_map.mpr ⟨j, hj, rfl⟩)
        · rw [htarget]
          rfl
      refine ⟨?_, ?_, ?_⟩
      · simp [Builder.afterJoin, Statement.addJoin, hb.aliases, Source.name]
      · simp only [Builder.afterJoin, List.map_append, List.map_cons, List.map_nil]
        exact List.nodup_append.mpr ⟨hb.fresh, by simp, by grind⟩
      · exact .snoc hb.linked (hb.mem_sources hs) (owner_of_relationship? hr).1 htargets
  -- Nothing else touches aliases and joins.
  | having under child =>
      obtain ⟨c, -, rfl⟩ := map_eq_ok.mp h
      cases c <;> exact hb.changed rfl
  | distinct | countRows =>
      cases h
      exact hb.changed rfl
  | limit n | offset n | orderBy under f d | groupBy under f =>
      obtain ⟨x, -, rfl⟩ := map_eq_ok.mp h
      exact hb.changed rfl

theorem Change.applyAll_inStep {b b' : Builder} {cs : List Change} {outcome : Except Fault Unit}
    (h : applyAll b cs = (outcome, b')) (hb : b.InStep) : b'.InStep :=
  applyAll_preserves (fun _ _ _ _ hc => apply_inStep hc) h hb

end Criteria
