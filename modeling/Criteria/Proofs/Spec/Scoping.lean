import Criteria.Proofs.Spec.Scope

/-!
# The scoping check

Whether a specification can be built depends on the aliases that it uses, if its values are such as operators
take and its fields are columns. `Spec.order` lists the places that use an alias as they are visited: first
joins, orders, groupings and conditions on groups, depth first and from left to right, then the conditions on
rows. `Bindings.check` makes these visits and stops at the first that finds something wrong.
`Spec.check_order` says that a builder to which the specification is applied does the same.
-/

namespace Criteria

/-! ## Bindings -/

/-- What aliases are bound to, in the order of their introduction. -/
abbrev Bindings := List (String × Entity)

/-- A use of an alias. -/
inductive Visit where
  /-- A relationship of what `under` is bound to is followed, to be known as `newAlias`. -/
  | join (under field newAlias : String)
  /-- A field of what `under` is bound to is read. -/
  | read (under field : String)
  deriving DecidableEq

/-- A field name stands for a column of an entity, or for no attribute of it. -/
def Entity.atMostColumn (e : Entity) (name : String) : Bool :=
  match e.field? name with
  | some (.column _) | none => true
  | some _ => false

namespace Bindings

/-- The bound aliases by code point. -/
def known (env : Bindings) : List String := (env.map (·.1)).mergeSort fun x y => x ≤ y

/-- What an alias is bound to. -/
def entity (env : Bindings) (under : String) : Except Fault Entity :=
  match env.lookup under with
  | some e => .ok e
  | none => .error (.unknownAlias under env.known)

/-- The bindings after a visit, or what it finds wrong. A join needs a fresh new alias, a bound one to start
from and a relationship; a field has to be an attribute of what a bound alias stands for. -/
def visit (env : Bindings) : Visit → Except Fault Bindings
  | .join under field newAlias =>
    if (env.lookup newAlias).isSome then .error (.aliasInUse newAlias)
    else do
      match (← env.entity under).field? field with
      | some (.relationship r) => .ok (env ++ [(newAlias, r.target)])
      | some _ => .error (.notRelationship field under)
      | none => .error (.unknownField field under)
  | .read under field => do
    match (← env.entity under).field? field with
    | some _ => .ok env
    | none => .error (.unknownField field under)

/-- Makes visits one after another, up to the first that finds something wrong, and keeps the bindings
reached. -/
def check (env : Bindings) : List Visit → Except Fault Unit × Bindings
  | [] => (.ok (), env)
  | v :: rest =>
    match env.visit v with
    | .ok env' => check env' rest
    | .error f => (.error f, env)

/-- The first visit that finds something wrong is `v`: those before it lead to the bindings `reached`, and
there it finds `f`. -/
def FirstFailure (env : Bindings) (vs : List Visit) (v : Visit) (reached : Bindings) (f : Fault) : Prop :=
  ∃ before after, vs = before ++ v :: after ∧ env.check before = (.ok (), reached) ∧
    reached.visit v = .error f

/-- Visits are made one after another, up to the first that finds something wrong. -/
theorem check_append (env : Bindings) (vs ws : List Visit) :
    env.check (vs ++ ws) =
      match env.check vs with
      | (.ok _, env') => check env' ws
      | (.error f, env') => (.error f, env') := by
  induction vs generalizing env with
  | nil => rfl
  | cons v rest ih =>
      simp only [List.cons_append, check]
      cases env.visit v with
      | error f => rfl
      | ok env' => exact ih env'

/-- A check fails with the first visit that finds something wrong, and keeps what is bound by then. -/
theorem check_eq_error {env reached : Bindings} {vs : List Visit} {f : Fault} :
    env.check vs = (.error f, reached) ↔ ∃ v, env.FirstFailure vs v reached f := by
  constructor
  · intro h
    induction vs generalizing env with
    | nil => cases h
    | cons v rest ih =>
        rw [check] at h
        cases hv : env.visit v with
        | error g =>
            rw [hv] at h
            cases h
            exact ⟨v, [], rest, rfl, rfl, hv⟩
        | ok env' =>
            rw [hv] at h
            obtain ⟨w, before, after, rfl, hbefore, hw⟩ := ih h
            refine ⟨w, v :: before, after, rfl, ?_, hw⟩
            rw [check, hv]
            exact hbefore
  · rintro ⟨v, before, after, rfl, hbefore, hv⟩
    rw [check_append, hbefore]
    simp only [check, hv]

/-- What a visit finds wrong is an argument that is not valid. -/
theorem kind_of_visit {env : Bindings} {v : Visit} {f : Fault} (h : env.visit v = .error f) :
    f.kind = .invalidArgument := by
  have hentity {under : String} {g : Fault} (hg : env.entity under = .error g) :
      g.kind = .invalidArgument := by
    unfold entity at hg
    split at hg
    · cases hg
    · cases hg
      rfl
  cases v with
  | join under field newAlias =>
      rw [visit] at h
      split at h
      · cases h
        rfl
      · rcases bind_eq_error.mp h with hunknown | ⟨e, -, h⟩
        · exact hentity hunknown
        · split at h <;> cases h <;> rfl
  | read under field =>
      rcases bind_eq_error.mp h with hunknown | ⟨e, -, h⟩
      · exact hentity hunknown
      · split at h <;> cases h
        rfl

/-! ## Fields that are columns -/

/-- What a visit reads is a column or no attribute. -/
def readsColumn (env : Bindings) : Visit → Bool
  | .read under field => (env.lookup under).all fun e => e.atMostColumn field
  | .join _ _ _ => true

/-- What the visits read, as far as they get, are columns or no attributes. -/
def readsColumns (env : Bindings) : List Visit → Bool
  | [] => true
  | v :: rest => env.readsColumn v &&
    match env.visit v with
    | .ok env' => readsColumns env' rest
    | .error _ => true

theorem readsColumns_append {env : Bindings} {vs ws : List Visit} :
    env.readsColumns (vs ++ ws) ↔
      env.readsColumns vs ∧ ∀ env', env.check vs = (.ok (), env') → readsColumns env' ws := by
  induction vs generalizing env with
  | nil => simp [readsColumns, check]
  | cons v rest ih =>
      simp only [List.cons_append, readsColumns, check]
      cases env.visit v with
      | error f => simp
      | ok env' => simp [ih, and_assoc]

end Bindings

/-! ## The visits of a tree -/

namespace Spec

mutual

/-- The fields that the condition of a specification is about. -/
def reads (under : String) : Spec → List Visit
  | .filter a f _ | .countAbove _ a f _ => [.read (effectiveAlias a under) f]
  | .conj cs | .disj cs => readsAll under cs
  | .neg c | .countOf (some c) => reads under c
  | .named _ a c => reads (effectiveAlias a under) c
  | _ => []

def readsAll (under : String) : List Spec → List Visit
  | [] => []
  | s :: rest => reads under s ++ readsAll under rest

end

mutual

/-- The visits of the modifiers of a specification; what a condition on groups is about is visited right
after the modifiers below it. -/
def visits (under : String) : Spec → List Visit
  | .join _ a f n => [.join (effectiveAlias a under) f n]
  | .orderBy a f _ | .groupBy a f => [.read (effectiveAlias a under) f]
  | .having c => visits under c ++ reads under c
  | .conj cs | .disj cs => visitsAll under cs
  | .neg c | .countOf (some c) => visits under c
  | .named _ a c => visits (effectiveAlias a under) c
  | _ => []

def visitsAll (under : String) : List Spec → List Visit
  | [] => []
  | s :: rest => visits under s ++ visitsAll under rest

end

/-- The visits of a specification: all modifiers before the conditions on rows. -/
def order (under : String) (s : Spec) : List Visit := s.visits under ++ s.reads under

end Spec

/-! ## Values that operators take -/

/-- An operator takes a value. Only equality and its opposite take a missing value or a truth value. -/
def Relation.takes (r : Relation) (v : Value) : Bool :=
  match r, v with
  | .eq, _ | .ne, _ => true
  | _, .null | _, .bool _ => false
  | _, _ => true

/-- A condition is said, with a value that its operator takes. -/
def Predicate.isTaken : Predicate → Bool
  | .compare _ r v => r.takes v
  | .unsaid => false
  | _ => true

namespace Spec

mutual

/-- All values of a specification are such as operators take: those compared with, and the counts of limits
and offsets. -/
def valuesTaken : Spec → Bool
  | .filter _ _ p => p.isTaken
  | .countAbove _ _ _ v => Relation.gt.takes v
  | .limit v | .offset v => (Builder.countOf v).isOk
  | .conj cs | .disj cs => allTaken cs
  | .neg c | .having c | .countOf (some c) | .named _ _ c => valuesTaken c
  | _ => true

def allTaken : List Spec → Bool
  | [] => true
  | s :: rest => valuesTaken s && allTaken rest

end

end Spec

namespace Predicate

/-- A comparison with a value that its operator takes can be built. -/
theorem compareClause_of_takes {r : Relation} {v : Value} (h : r.takes v) (s : Subject) :
    ∃ c, compareClause r s v = .ok c := by
  unfold compareClause
  split
  · exact ⟨_, rfl⟩
  · exact ⟨_, rfl⟩
  · exact ⟨_, rfl⟩
  · exact ⟨_, rfl⟩
  · cases r <;> simp [Relation.takes] at *
  · cases r <;> simp [Relation.takes] at *
  · exact ⟨_, rfl⟩

theorem onColumn_of_isTaken {p : Predicate} (h : p.isTaken) (c : ColumnRef) :
    ∃ clause, p.onColumn c = .ok clause := by
  cases p with
  | compare named r v => exact compareClause_of_takes h _
  | unsaid => simp [isTaken] at h
  | member n vs | isNull n | like pl v | between l u => exact ⟨_, rfl⟩

end Predicate

/-! ## The bindings of a builder -/

namespace Builder

/-- What the aliases of a builder are bound to. -/
def bindings (b : Builder) : Bindings := b.aliases.map fun p => (p.1, p.2.entity)

theorem bindings_afterJoin (b : Builder) (path n : String) (outer : Bool) (j : JoinStep) :
    (b.afterJoin path n outer j).bindings = b.bindings ++ [(n, j.target.entity)] := by
  simp [bindings, afterJoin]

/-- An alias is bound to the entity of its source. -/
theorem lookup_bindings (b : Builder) (under : String) :
    b.bindings.lookup under = (b.aliases.lookup under).map Source.entity := by
  unfold bindings
  induction b.aliases with
  | nil => rfl
  | cons p rest ih =>
      obtain ⟨a, s⟩ := p
      simp only [List.map_cons, List.lookup_cons, ih]
      cases under == a <;> rfl

theorem known_bindings (b : Builder) : b.bindings.known = b.knownAliases := by
  simp [bindings, Bindings.known, knownAliases, Function.comp_def]

theorem entity_bindings (b : Builder) (under : String) :
    b.bindings.entity under = (b.source under).map Source.entity := by
  unfold Bindings.entity source
  rw [lookup_bindings, known_bindings]
  cases b.aliases.lookup under <;> rfl

/-- A join is a visit of the bindings. -/
theorem visit_join (b : Builder) (under name newAlias : String) (outer : Bool) :
    b.bindings.visit (.join under name newAlias) =
      (b.joinStep name newAlias under outer).map fun j =>
        b.bindings ++ [(newAlias, j.target.entity)] := by
  simp only [Bindings.visit, joinStep, field, lookup_bindings, entity_bindings, Option.isSome_map]
  split
  · rfl
  · cases b.source under with
    | error f => rfl
    | ok s =>
        simp only [Except.map, bind, Except.bind]
        cases s.entity.field? name with
        | none => rfl
        | some field => cases field <;> rfl

/-- A read is a look at the field, which is a column if it is there at all. -/
theorem visit_read {b : Builder} {under name : String}
    (hcolumn : b.bindings.readsColumn (.read under name)) :
    (∃ s c, b.field name under = .ok (s, .column c) ∧
        b.bindings.visit (.read under name) = .ok b.bindings) ∨
      ∃ f, b.field name under = .error f ∧ b.bindings.visit (.read under name) = .error f := by
  simp only [Bindings.visit, entity_bindings, field]
  cases hs : b.source under with
  | error f => exact .inr ⟨f, rfl, rfl⟩
  | ok s =>
      have hlookup : b.bindings.lookup under = some s.entity := by
        rw [lookup_bindings, source_eq_ok.mp hs]
        rfl
      simp only [Bindings.readsColumn, hlookup, Option.all_some, Entity.atMostColumn] at hcolumn
      simp only [Except.map, bind, Except.bind]
      cases hfield : s.entity.field? name with
      | none => exact .inr ⟨_, rfl, rfl⟩
      | some field =>
          cases field with
          | column c => exact .inl ⟨s, c, rfl, rfl⟩
          | relationship r | plain => simp [hfield] at hcolumn

/-! ## Questions to a builder -/

/-- A question to a builder fails as the visits do, and they bind nothing. -/
def Looks {α : Type} (b : Builder) (question : Except Fault α) (vs : List Visit) : Prop :=
  b.bindings.check vs = (question.map fun _ => (), b.bindings)

section Looks

variable {α β : Type} {b : Builder} {question : Except Fault α} {vs ws : List Visit}

theorem Looks.map (h : b.Looks question vs) (g : α → β) : b.Looks (question.map g) vs := by
  unfold Looks at *
  rw [h]
  cases question <;> rfl

theorem looks_ok (b : Builder) (a : α) : b.Looks (.ok a) [] := rfl

/-- One question after another makes the visits of the one and then those of the other. -/
theorem Looks.bind (h : b.Looks question vs) {next : α → Except Fault β}
    (hnext : ∀ a, question = .ok a → b.Looks (next a) ws) : b.Looks (question >>= next) (vs ++ ws) := by
  unfold Looks at *
  rw [Bindings.check_append, h]
  cases question with
  | error f => rfl
  | ok a => exact hnext a rfl

/-- If a question is answered, its visits leave the bindings, so that reads behind them meet the same. -/
theorem Looks.readsColumns (h : b.Looks question vs) {a : α} (ha : question = .ok a)
    (hcolumns : b.bindings.readsColumns (vs ++ ws)) : b.bindings.readsColumns ws := by
  apply (Bindings.readsColumns_append.mp hcolumns).2
  rw [h, ha]
  rfl

/-- A question about a field that answers where the field is a column makes one visit. -/
theorem looks_field {under name : String} (hcolumns : b.bindings.readsColumns [.read under name])
    {next : Source × Field → Except Fault α} (hnext : ∀ s c, ∃ a, next (s, .column c) = .ok a) :
    b.Looks (b.field name under >>= next) [.read under name] := by
  unfold Looks
  rcases visit_read (Bool.and_eq_true_iff.mp hcolumns).1 with ⟨s, c, hfield, hvisit⟩ | ⟨f, hfield, hvisit⟩
  · obtain ⟨a, ha⟩ := hnext s c
    rw [hfield]
    simp only [Bindings.check, hvisit, bind, Except.bind, ha, Except.map]
  · rw [hfield]
    simp only [Bindings.check, hvisit, bind, Except.bind, Except.map]

end Looks

theorem looks_term {b : Builder} {under name : String}
    (hcolumns : b.bindings.readsColumns [.read under name]) :
    b.Looks (b.term name under) [.read under name] :=
  looks_field hcolumns fun _ _ => ⟨_, rfl⟩

end Builder

namespace Spec

open Builder

theorem looks_leafClause {b : Builder} {under name : String} {p : Predicate} (hp : p.isTaken)
    (hcolumns : b.bindings.readsColumns [.read under name]) :
    b.Looks (leafClause b under name p) [.read under name] :=
  looks_field hcolumns fun _ _ => Predicate.onColumn_of_isTaken hp _

theorem looks_sortKey {b : Builder} {under name : String} {d : SortDirection}
    (hcolumns : b.bindings.readsColumns [.read under name]) :
    b.Looks (sortKey b under name d) [.read under name] :=
  looks_field hcolumns fun _ _ => ⟨_, rfl⟩

mutual

/-- The condition of a tree can be built unless a visit finds something wrong with what it reads. -/
theorem looks_clause? {b : Builder} (under : String) (s : Spec) (hvalues : s.valuesTaken)
    (hcolumns : b.bindings.readsColumns (s.reads under)) :
    b.Looks (s.clause? b under) (s.reads under) := by
  match s with
  | .filter a f p => exact (looks_leafClause hvalues hcolumns).map some
  | .countAbove t a f v =>
      have hterm : b.Looks (b.term f (effectiveAlias a under)) [.read (effectiveAlias a under) f] :=
        looks_term hcolumns
      -- nothing more is visited behind the field
      show b.Looks _ ([Visit.read (effectiveAlias a under) f] ++ [])
      refine hterm.bind fun term _ => ?_
      obtain ⟨c, hc⟩ := Predicate.compareClause_of_takes hvalues (.count term)
      simp only [hc]
      exact looks_ok b (some c)
  | .conj cs | .disj cs => exact (looks_clauses under cs hvalues hcolumns).map _
  | .neg c => exact (looks_clause? under c hvalues hcolumns).map _
  | .countOf (some c) => exact looks_clause? under c hvalues hcolumns
  | .named _ a c => exact looks_clause? (effectiveAlias a under) c hvalues hcolumns
  | .join _ _ _ _ | .limit _ | .offset _ | .orderBy _ _ _ | .groupBy _ _ | .distinct | .having _
  | .countOf none | .idle | .base _ | .namedForeign _ _ _ => exact looks_ok b none

theorem looks_clauses {b : Builder} (under : String) (cs : List Spec) (hvalues : allTaken cs)
    (hcolumns : b.bindings.readsColumns (readsAll under cs)) :
    b.Looks (clauses b under cs) (readsAll under cs) := by
  match cs with
  | [] => exact looks_ok b []
  | s :: rest =>
      obtain ⟨hs, hrest⟩ := Bool.and_eq_true_iff.mp hvalues
      have hclause := looks_clause? under s hs (Bindings.readsColumns_append.mp hcolumns).1
      refine hclause.bind fun c hc => ?_
      exact (looks_clauses under rest hrest (hclause.readsColumns hc hcolumns)).map _

end

end Spec

/-! ## Changes -/

namespace Change

open Builder

/-- The visits of a change. -/
def visits : Change → List Visit
  | .join _ under f n => [.join under f n]
  | .orderBy under f _ | .groupBy under f => [.read under f]
  | .having under child => child.reads under
  | _ => []

/-- The values of a change are such as operators take. -/
def valuesTaken : Change → Bool
  | .limit v | .offset v => (countOf v).isOk
  | .having _ child => child.valuesTaken
  | _ => true

/-- A question whose answer changes the statement alone. -/
theorem check_of_looks {α : Type} {b : Builder} {question : Except Fault α} {vs : List Visit}
    (h : b.Looks question vs) (after : α → Statement → Statement) :
    b.bindings.check vs =
      match question.map fun a => b.changed (after a) with
      | .ok b' => (.ok (), b'.bindings)
      | .error f => (.error f, b.bindings) := by
  rw [h]
  cases question <;> rfl

/-- A change fails as its visits do, and binds what they bind. -/
theorem check_visits (b : Builder) (c : Change) (hvalues : c.valuesTaken)
    (hcolumns : b.bindings.readsColumns c.visits) :
    b.bindings.check c.visits =
      match c.apply b with
      | .ok b' => (.ok (), b'.bindings)
      | .error f => (.error f, b.bindings) := by
  cases c with
  | join k under f n =>
      simp only [visits, Bindings.check, visit_join b under f n k.isOuter, apply]
      cases b.joinStep f n under k.isOuter with
      | error fault => rfl
      | ok j => simp only [Except.map, bindings_afterJoin]
  -- A count that can be read is never refused, and nothing is visited for it.
  | limit v | offset v =>
      obtain ⟨n, hn⟩ : ∃ n, countOf v = .ok n := by
        cases hn : countOf v with
        | ok n => exact ⟨n, rfl⟩
        | error f => simp [valuesTaken, hn, Except.isOk, Except.toBool] at hvalues
      simp only [apply, hn]
      rfl
  | orderBy under f d => exact check_of_looks (Spec.looks_sortKey hcolumns) _
  | groupBy under f => exact check_of_looks (looks_term hcolumns) _
  | having under child => exact check_of_looks (child.looks_clause? under hvalues hcolumns) _
  | distinct | countRows => rfl

/-- Changes fail as their visits do, and bind what they bind. -/
theorem check_applyAll (b : Builder) (cs : List Change) (hvalues : ∀ c ∈ cs, c.valuesTaken)
    (hcolumns : b.bindings.readsColumns (cs.flatMap visits)) :
    b.bindings.check (cs.flatMap visits) = ((applyAll b cs).1, (applyAll b cs).2.bindings) := by
  induction cs generalizing b with
  | nil => rfl
  | cons c rest ih =>
      obtain ⟨hfirst, hlater⟩ := Bindings.readsColumns_append.mp hcolumns
      have hcheck := check_visits b c (hvalues c List.mem_cons_self) hfirst
      rw [List.flatMap_cons, Bindings.check_append, hcheck, applyAll]
      cases hc : c.apply b with
      | error f => rfl
      | ok b' =>
          rw [hc] at hcheck
          exact ih b' (fun d hd => hvalues d (List.mem_cons_of_mem _ hd)) (hlater _ hcheck)

end Change

namespace Spec

mutual

/-- The modifiers of a tree are visited change by change. -/
theorem visits_eq (under : String) (s : Spec) :
    s.visits under = (s.changes under).flatMap Change.visits := by
  match s with
  | .conj cs | .disj cs => exact visitsAll_eq under cs
  | .neg c => exact visits_eq under c
  | .named _ a c => exact visits_eq (effectiveAlias a under) c
  | .countOf (some c) => exact visits_eq under c
  | .having c => simp [visits, changes, visits_eq under c, Change.visits]
  | .join _ _ _ _ | .orderBy _ _ _ | .groupBy _ _ | .limit _ | .offset _ | .distinct | .filter _ _ _
  | .countAbove _ _ _ _ | .countOf none | .idle | .base _ | .namedForeign _ _ _ => rfl

theorem visitsAll_eq (under : String) (cs : List Spec) :
    visitsAll under cs = (changesAll under cs).flatMap Change.visits := by
  match cs with
  | [] => rfl
  | s :: rest => rw [visitsAll, changesAll, List.flatMap_append, visits_eq, visitsAll_eq]

end

mutual

/-- The values of the changes of a tree are among those of the tree. -/
theorem valuesTaken_changes (under : String) (s : Spec) (h : s.valuesTaken) :
    ∀ c ∈ s.changes under, c.valuesTaken := by
  match s with
  | .conj cs | .disj cs => exact valuesTaken_changesAll under cs h
  | .neg c => exact valuesTaken_changes under c h
  | .named _ a c => exact valuesTaken_changes (effectiveAlias a under) c h
  | .countOf (some c) =>
      rintro d hd
      rcases List.mem_cons.mp hd with rfl | hd
      · rfl
      · exact valuesTaken_changes under c h d hd
  | .having c =>
      rintro d hd
      rcases List.mem_append.mp hd with hd | hd
      · exact valuesTaken_changes under c h d hd
      · rw [List.mem_singleton.mp hd]
        exact h
  | .limit v | .offset v =>
      rintro d hd
      rw [List.mem_singleton.mp hd]
      exact h
  | .join _ _ _ _ | .orderBy _ _ _ | .groupBy _ _ | .distinct | .countOf none =>
      rintro d hd
      rw [List.mem_singleton.mp hd]
      rfl
  | .filter _ _ _ | .countAbove _ _ _ _ | .idle | .base _ | .namedForeign _ _ _ =>
      intro d hd
      cases hd

theorem valuesTaken_changesAll (under : String) (cs : List Spec) (h : allTaken cs) :
    ∀ c ∈ changesAll under cs, c.valuesTaken := by
  match cs with
  | [] =>
      intro d hd
      cases hd
  | s :: rest =>
      obtain ⟨hs, hrest⟩ := Bool.and_eq_true_iff.mp h
      intro d hd
      rcases List.mem_append.mp hd with hd | hd
      · exact valuesTaken_changes under s hs d hd
      · exact valuesTaken_changesAll under rest hrest d hd

end

/-- **Application follows the check.** A builder to which a specification is applied fails as its visits do,
and binds what they bind. -/
theorem check_order (b : Builder) (under : String) (s : Spec) (hvalues : s.valuesTaken)
    (hcolumns : b.bindings.readsColumns (s.order under)) :
    b.bindings.check (s.order under) =
      ((runFrom b (s.apply under)).1, (runFrom b (s.apply under)).2.bindings) := by
  rw [order, visits_eq] at *
  obtain ⟨hchanges, hreads⟩ := Bindings.readsColumns_append.mp hcolumns
  have hcheck := Change.check_applyAll b (s.changes under) (valuesTaken_changes under s hvalues) hchanges
  rw [Bindings.check_append, hcheck, run_apply]
  rcases hall : Change.applyAll b (s.changes under) with ⟨f | u, b₁⟩
  · rfl
  · rw [hall] at hcheck
    have hclause : b₁.bindings.check (s.reads under) =
        ((s.clause? b₁ under).map fun _ => (), b₁.bindings) :=
      looks_clause? under s hvalues (hreads _ hcheck)
    simp only [hclause]
    cases s.clause? b₁ under <;> rfl

end Spec
end Criteria
