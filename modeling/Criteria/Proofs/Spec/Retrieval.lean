import Criteria.Proofs.Spec.Meaning
import Criteria.Proofs.Statement.Retrieval

/-!
# Trees that retrieve entities

A tree of filters, joins and orders changes the joins and the order of a statement, and its condition is about
rows of what its aliases stand for. Applied to all rows of an entity it therefore makes a statement that
retrieves entities (`retrieves_of_apply`).
-/

namespace Criteria

/-! ## What conditions name -/

section Within

variable {known : List Source}

/-- What holds of several clauses and of every way to join them holds of what they are combined to. -/
theorem within_of_mem_combine {join : List Clause → Clause} {cs : List Clause} {c : Clause}
    (hjoin : (join cs).Within known) (h : ∀ d ∈ cs, d.Within known)
    (hc : c ∈ Spec.combine join cs) : c.Within known := by
  rcases cs with _ | ⟨d, _ | ⟨e, rest⟩⟩
  · cases hc
  · cases hc
    exact h _ List.mem_cons_self
  · cases hc
    exact hjoin

/-- A condition on a column is about the source of the column. -/
theorem within_of_onColumn {ref : ColumnRef} {p : Predicate} {c : Clause}
    (hknown : ref.source ∈ known) (h : p.onColumn ref = .ok c) : c.Within known := by
  have hsources : ∀ s ∈ [ref.source], s ∈ known := by simpa using hknown
  cases p with
  | compare named r v => cases v <;> cases r <;> cases h <;> exact ⟨rfl, hsources⟩
  | member n vs | isNull n | like p v | between l h' =>
      cases h
      exact ⟨rfl, hsources⟩
  | unsaid => cases h

theorem within_relatedClause {s : Source} (hknown : s ∈ known) (r : Relationship) (present : Bool) :
    (Predicate.relatedClause s r present).Within known := by
  have hsources : ∀ t ∈ [s], t ∈ known := by simpa using hknown
  cases r <;> cases present
  · exact ⟨rfl, by simp [Predicate.relatedClause, Clause.sources]⟩
  · exact ⟨rfl, by simp [Predicate.relatedClause, Clause.sources]⟩
  · exact ⟨rfl, hsources⟩
  · exact ⟨rfl, hsources⟩

theorem within_of_onRelationship {s : Source} {r : Relationship} {p : Predicate} {c : Clause}
    (hknown : s ∈ known) (h : p.onRelationship s r = .ok c) : c.Within known := by
  cases p with
  | compare named rel v =>
      cases rel <;> cases v <;> cases h <;> exact within_relatedClause hknown r _
  | member n vs | isNull n | like p v | between l h' | unsaid => cases h

theorem within_of_onAttribute {a : Attribute} {p : Predicate} {c : Clause} (h : p.onAttribute a = .ok c) :
    c.Within known := by
  cases p with
  | compare named r v =>
      obtain ⟨b, -, h⟩ := bind_eq_ok.mp h
      cases h
      exact ⟨rfl, by simp [Clause.sources]⟩
  | member n vs | isNull n | like p v | between l h' | unsaid => cases h

/-- The condition of a leaf is about what its alias stands for. -/
theorem within_of_leafClause {b : Builder} {under field : String} {p : Predicate} {c : Clause}
    (hknown : ∀ a s, b.aliases.lookup a = some s → s ∈ known)
    (h : Spec.leafClause b under field p = .ok c) : c.Within known := by
  obtain ⟨⟨s, f⟩, hfield, hclause⟩ := bind_eq_ok.mp h
  obtain ⟨hsource, -⟩ := Builder.field_eq_ok.mp hfield
  cases f with
  | column col => exact within_of_onColumn (hknown _ _ hsource) hclause
  | relationship r => exact within_of_onRelationship (hknown _ _ hsource) hclause
  | plain a => exact within_of_onAttribute hclause

mutual

/-- The condition of a retrieving tree is about rows of what its aliases stand for. -/
theorem within_of_clause? {b : Builder} {under : String} {s : Spec} {c : Option Clause}
    (hknown : ∀ a x, b.aliases.lookup a = some x → x ∈ known)
    (hs : s.isRetrieval = true) (h : s.clause? b under = .ok c) : ∀ d ∈ c, d.Within known := by
  intro d hd
  match s with
  | .filter a f p =>
      obtain ⟨e, he, hc⟩ := bind_eq_ok.mp h
      cases hc
      cases hd
      exact within_of_leafClause hknown he
  | .conj cs =>
      obtain ⟨ds, hds, hc⟩ := bind_eq_ok.mp h
      cases hc
      have hall := within_of_clauses hknown hs hds
      exact within_of_mem_combine (Clause.within_conj hall) hall hd
  | .disj cs =>
      obtain ⟨ds, hds, hc⟩ := bind_eq_ok.mp h
      cases hc
      have hall := within_of_clauses hknown hs hds
      exact within_of_mem_combine (Clause.within_disj hall) hall hd
  | .neg child =>
      obtain ⟨e, he, hc⟩ := bind_eq_ok.mp h
      cases hc
      obtain ⟨d', hd', rfl⟩ := Option.map_eq_some_iff.mp hd
      exact (within_of_clause? (s := child) hknown hs he d' hd').negate
  | .named t a child => exact within_of_clause? (s := child) hknown hs h d hd
  -- These have no condition, and the last ones retrieve nothing.
  | .join _ _ _ _ | .orderBy _ _ _ | .idle | .base _ | .namedForeign _ _ _ =>
      cases h
      cases hd
  | .countAbove _ _ _ _ | .limit _ | .offset _ | .groupBy _ _ | .distinct | .having _ | .countOf _ =>
      cases hs

theorem within_of_clauses {b : Builder} {under : String} {ss : List Spec} {cs : List Clause}
    (hknown : ∀ a x, b.aliases.lookup a = some x → x ∈ known)
    (hs : Spec.areRetrievals ss = true) (h : Spec.clauses b under ss = .ok cs) :
    ∀ d ∈ cs, d.Within known := by
  match ss with
  | [] =>
      cases h
      simp
  | s :: rest =>
      obtain ⟨c, hc, h⟩ := bind_eq_ok.mp h
      obtain ⟨ds, hds, h⟩ := bind_eq_ok.mp h
      cases h
      obtain ⟨hfirst, hrest⟩ := Bool.and_eq_true_iff.mp hs
      intro d hd
      rcases List.mem_append.mp hd with hd | hd
      · exact within_of_clause? hknown hfirst hc d (Option.mem_toList.mp hd)
      · exact within_of_clauses hknown hrest hds d hd

end

end Within

/-! ## What trees change -/

/-- Whether a change adds a join or an order. -/
def Change.isRetrieval : Change → Bool
  | .join _ _ _ _ | .orderBy _ _ _ => true
  | _ => false

namespace Spec

mutual

/-- A retrieving tree joins and orders, and changes nothing else. -/
theorem isRetrieval_of_mem_changes {under : String} {s : Spec} (hs : s.isRetrieval = true) :
    ∀ c ∈ s.changes under, c.isRetrieval = true := by
  match s with
  | .conj cs | .disj cs => exact @isRetrieval_of_mem_changesAll under cs hs
  | .neg child => exact isRetrieval_of_mem_changes (s := child) hs
  | .named t a child => exact isRetrieval_of_mem_changes (s := child) hs
  | .join _ _ _ _ | .orderBy _ _ _ => simp [changes, Change.isRetrieval]
  | .filter _ _ _ | .idle | .base _ | .namedForeign _ _ _ => simp [changes]
  | .countAbove _ _ _ _ | .limit _ | .offset _ | .groupBy _ _ | .distinct | .having _ | .countOf _ =>
      cases hs

theorem isRetrieval_of_mem_changesAll {under : String} {ss : List Spec}
    (hs : areRetrievals ss = true) : ∀ c ∈ changesAll under ss, c.isRetrieval = true := by
  match ss with
  | [] => simp [changesAll]
  | s :: rest =>
      obtain ⟨hfirst, hrest⟩ := Bool.and_eq_true_iff.mp hs
      intro c hc
      rcases List.mem_append.mp hc with hc | hc
      · exact isRetrieval_of_mem_changes hfirst c hc
      · exact isRetrieval_of_mem_changesAll hrest c hc

end

end Spec

/-- Whether a builder has come from another by joins and orders alone. -/
structure Builder.Extends (b b' : Builder) : Prop where
  rootAlias : b'.rootAlias = b.rootAlias
  root : b'.root = b.root
  statement : b'.statement =
    { b.statement with joins := b'.statement.joins, sorting := b'.statement.sorting }

/-- A join or an order extends a builder. -/
theorem Change.extends_of_apply {b b' : Builder} {c : Change} (hc : c.isRetrieval = true)
    (h : c.apply b = .ok b') : b.Extends b' := by
  cases c with
  | join k under f n =>
      obtain ⟨j, -, rfl⟩ := map_eq_ok.mp h
      exact ⟨rfl, rfl, rfl⟩
  | orderBy under f d =>
      obtain ⟨k, -, rfl⟩ := map_eq_ok.mp h
      exact ⟨rfl, rfl, rfl⟩
  | _ => cases hc

theorem Change.extends_of_applyAll {b b' : Builder} {cs : List Change}
    (hcs : ∀ c ∈ cs, c.isRetrieval = true) (h : applyAll b cs = (.ok (), b')) : b.Extends b' := by
  refine applyAll_preserves (motive := b.Extends) ?_ h ⟨rfl, rfl, rfl⟩
  intro c hc b₁ b₂ hstep hb
  have hnext := extends_of_apply (hcs c hc) hstep
  refine ⟨hnext.rootAlias.trans hb.rootAlias, hnext.root.trans hb.root, ?_⟩
  rw [hnext.statement, hb.statement]

/-! ## What applying a tree makes -/

section Applied

variable {root : Entity} {under : String} {s : Spec} {b : Builder}

/-- A builder after a tree has been applied registers and joins what the scope of the tree says. -/
theorem Spec.scope_of_apply (h : runFrom (Builder.ofEntity root under) (s.apply under) = (.ok (), b)) :
    s.scope under (.ofRoot under root) = some b.scope := by
  obtain ⟨b₁, c, hchanges, -, rfl⟩ := run_apply_eq_ok.mp h
  have hscope := scope_of_applyAll hchanges
  cases c <;> exact hscope

theorem Spec.inStep_of_apply (h : runFrom (Builder.ofEntity root under) (s.apply under) = (.ok (), b)) :
    b.InStep := by
  obtain ⟨b₁, c, hchanges, -, rfl⟩ := run_apply_eq_ok.mp h
  have hstep := Change.applyAll_inStep hchanges (Builder.ofEntity_inStep root under)
  cases c <;> exact hstep.changed rfl

variable (hs : s.isRetrieval = true)
  (h : runFrom (Builder.ofEntity root under) (s.apply under) = (.ok (), b))

include hs h

/-- The statement has the joins and the order of the tree, and its condition, which reads the final aliases. -/
theorem Spec.statement_of_apply :
    ∃ b₁ c, s.clause? b₁ under = .ok c ∧ b₁.aliases = b.aliases ∧ b.root = root ∧
      b.statement = { Statement.ofEntity root with
        joins := b.statement.joins, conditions := c.toList, sorting := b.statement.sorting } := by
  obtain ⟨b₁, c, hchanges, hclause, rfl⟩ := run_apply_eq_ok.mp h
  have hext := Change.extends_of_applyAll (isRetrieval_of_mem_changes hs) hchanges
  refine ⟨b₁, c, hclause, rfl, hext.root, ?_⟩
  rw [Builder.changed_statement, hext.statement]
  cases c <;> rfl

/-- What an alias stands for is the root or was joined. -/
theorem Spec.mem_sources_of_apply {a : String} {x : Source} (hx : b.aliases.lookup a = some x) :
    x ∈ b.scope.sources root := by
  obtain ⟨-, -, -, -, hroot, -⟩ := statement_of_apply hs h
  have hmem := (inStep_of_apply h).mem_sources hx
  rw [hroot] at hmem
  exact hmem

/-- **A tree of filters, joins and orders retrieves entities.** -/
theorem Spec.retrieves_of_apply : b.statement.Retrieves root := by
  obtain ⟨b₁, c, hclause, haliases, hroot, hstatement⟩ := statement_of_apply hs h
  have hconditions : b.statement.conditions = c.toList := congrArg Statement.conditions hstatement
  refine ⟨?_, hroot ▸ (inStep_of_apply h).linked, ?_⟩
  · rw [hconditions]
    exact hstatement
  · rw [hconditions]
    intro d hd
    refine within_of_clause? ?_ hs hclause d (Option.mem_toList.mp hd)
    intro a x hx
    rw [haliases] at hx
    exact mem_sources_of_apply hs h hx

/-- The conditions of the statement are true of a row exactly if the tree accepts it. -/
theorem Spec.holds_of_apply {db : Database} {group : List Row} {row : Row} :
    (Clause.truthAll db group row b.statement.conditions).holds =
      s.accepts (Relationship.asked db row) b.aliases row under := by
  obtain ⟨b₁, c, hclause, haliases, -, hstatement⟩ := statement_of_apply hs h
  have hconditions : b.statement.conditions = c.toList := congrArg Statement.conditions hstatement
  rw [hconditions, holds_of_clause? hs hclause, haliases]

end Applied

end Criteria
