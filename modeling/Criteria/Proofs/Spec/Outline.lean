import Criteria.Proofs.Spec.Scope
import Criteria.Proofs.Statement.Outline

/-!
# Specifications without their values

The outline of a specification is the tree with the content of its values taken out: nodes, fields, aliases,
operators and formats stay, and so do the lengths of lists. What a plain attribute of a class is compared with
stays as well, since that comparison is made while the condition is built. What a specification builds has the
outline of what its outline builds (`Spec.apply_outline`), and where one is refused the other is refused in the
same way.
-/

namespace Criteria

/-! ## Outlines -/

/-- A predicate with the content of its values taken out. -/
def Predicate.outline : Predicate → Predicate
  | .compare named r v => .compare named r v.outline
  | .member n vs => .member n (vs.map Value.outline)
  | .isNull n => .isNull n
  | .like p v => .like p v.outline
  | .between l h => .between l.outline h.outline
  | .unsaid => .unsaid

/-- A count with its content taken out, if it is a natural number. -/
def Value.countOutline : Value → Value
  | .int n => if 0 ≤ n then .int 0 else .int n
  | v => v

/-- A predicate with the content of its values taken out, unless it is about a plain attribute. -/
def Predicate.outlineFor (field : String) (p : Predicate) : Predicate :=
  if plainFields.contains field then p else p.outline

namespace Spec

mutual

/-- A specification with the content of its values taken out. -/
def outline : Spec → Spec
  | .filter a f p => .filter a f (p.outlineFor f)
  | .countAbove t a f v => .countAbove t a f v.outline
  | .conj cs => .conj (outlineAll cs)
  | .disj cs => .disj (outlineAll cs)
  | .neg c => .neg (outline c)
  | .limit n => .limit n.countOutline
  | .offset n => .offset n.countOutline
  | .having c => .having (outline c)
  | .countOf (some c) => .countOf (some (outline c))
  | .named t a c => .named t a (outline c)
  | s => s

def outlineAll : List Spec → List Spec
  | [] => []
  | s :: rest => outline s :: outlineAll rest

end

end Spec

def Change.outline : Change → Change
  | .limit n => .limit n.countOutline
  | .offset n => .offset n.countOutline
  | .having under c => .having under c.outline
  | c => c

/-- A builder with the content of the values in its statement taken out. -/
def Builder.outline (b : Builder) : Builder := b.changed Statement.outline

/-- A fault without the type of the value that lacks an attribute. -/
def Fault.outline : Fault → Fault
  | .noAttribute _ name => .noAttribute "" name
  | f => f

/-- Outcomes that are refused in the same way, or that have one outline. -/
def SameOutline {α β : Type} (outline : α → β) (x y : Except Fault α) : Prop :=
  (x.mapError Fault.outline).map outline = (y.mapError Fault.outline).map outline

namespace SameOutline

variable {α β γ δ : Type} {f : α → β} {x y : Except Fault α}

theorem refl (x : Except Fault α) : SameOutline f x x := rfl

theorem symm (h : SameOutline f x y) : SameOutline f y x := Eq.symm h

theorem trans {z : Except Fault α} (hxy : SameOutline f x y) (hyz : SameOutline f y z) :
    SameOutline f x z := Eq.trans hxy hyz

theorem cases (h : SameOutline f x y) :
    (∃ a b, x = .ok a ∧ y = .ok b ∧ f a = f b) ∨
      ∃ e e', x = .error e ∧ y = .error e' ∧ e.outline = e'.outline := by
  rcases x with e | a <;> rcases y with e' | b
  · exact .inr ⟨e, e', rfl, rfl, Except.error.inj h⟩
  · cases h
  · cases h
  · exact .inl ⟨a, b, rfl, rfl, Except.ok.inj h⟩

theorem ok {a b : α} (h : f a = f b) : SameOutline f (.ok a) (.ok b) :=
  congrArg Except.ok h

theorem bind {g : γ → δ} {k k' : α → Except Fault γ} (h : SameOutline f x y)
    (hk : ∀ a b, f a = f b → SameOutline g (k a) (k' b)) : SameOutline g (x >>= k) (y >>= k') := by
  rcases h.cases with ⟨a, b, rfl, rfl, hab⟩ | ⟨e, e', rfl, rfl, he⟩
  · exact hk a b hab
  · exact congrArg Except.error he

theorem map {g : γ → δ} {k k' : α → γ} (h : SameOutline f x y)
    (hk : ∀ a b, f a = f b → g (k a) = g (k' b)) : SameOutline g (x.map k) (y.map k') := by
  rcases h.cases with ⟨a, b, rfl, rfl, hab⟩ | ⟨e, e', rfl, rfl, he⟩
  · exact .ok (hk a b hab)
  · exact congrArg Except.error he

end SameOutline

/-! ## Conditions -/

@[simp] theorem Value.outline_outline (v : Value) : v.outline.outline = v.outline := by
  cases v <;> rfl

theorem compareClause_outline (r : Relation) (s : Subject) (v : Value) :
    SameOutline Clause.outline (Predicate.compareClause r s v.outline)
      (Predicate.compareClause r s v) := by
  cases v <;> cases r <;> rfl

/-- A condition on a column depends on its values through their content only. -/
theorem onColumn_outline (c : ColumnRef) (p : Predicate) :
    SameOutline Clause.outline (p.outline.onColumn c) (p.onColumn c) := by
  cases p with
  | compare named r v => exact compareClause_outline r (.column c) v
  | member n vs => exact .ok (by simp [Clause.outline])
  | between l h => exact .ok (by simp [Clause.outline])
  | isNull n | like p v | unsaid => rfl

theorem onRelationship_outline (s : Source) (r : Relationship) (p : Predicate) :
    SameOutline Clause.outline (p.outline.onRelationship s r) (p.onRelationship s r) := by
  cases p with
  | compare named rel v => cases r <;> cases v <;> cases rel <;> rfl
  | member n vs | isNull n | like p v | between l h | unsaid => rfl

/-- So does the condition of a leaf, unless its field is a plain attribute. -/
theorem leafClause_outline (b : Builder) (under field : String) (p : Predicate) :
    SameOutline Clause.outline (Spec.leafClause b under field (p.outlineFor field))
      (Spec.leafClause b under field p) := by
  unfold Predicate.outlineFor
  split
  · exact .refl _
  · rename_i hname
    unfold Spec.leafClause
    cases hfield : b.field field under with
    | error f => rfl
    | ok target =>
        rcases target with ⟨s, c | r | a⟩
        · exact onColumn_outline ⟨s, c⟩ p
        · exact onRelationship_outline s r p
        · exact absurd (contains_of_field?_eq_plain (Builder.field_eq_ok.mp hfield).2) hname

/-- Joining clauses of one outline gives clauses of one outline. -/
theorem map_outline_combine {join : List Clause → Clause} {cs ds : List Clause}
    (hjoin : ∀ cs ds, cs.map Clause.outline = ds.map Clause.outline →
      (join cs).outline = (join ds).outline)
    (h : cs.map Clause.outline = ds.map Clause.outline) :
    (Spec.combine join cs).map Clause.outline = (Spec.combine join ds).map Clause.outline := by
  rcases cs with _ | ⟨c, _ | ⟨c', cs⟩⟩ <;> rcases ds with _ | ⟨d, _ | ⟨d', ds⟩⟩
  all_goals simp only [List.map_nil, List.map_cons, List.cons.injEq, reduceCtorEq, and_false] at h
  · rfl
  · simpa [Spec.combine] using h.1
  · simpa [Spec.combine] using hjoin (c :: c' :: cs) (d :: d' :: ds) (by simp [h])

mutual

/-- The condition of an outline has the outline of the condition. -/
theorem clause?_outline (b : Builder) (under : String) (s : Spec) :
    SameOutline (Option.map Clause.outline) (s.outline.clause? b under) (s.clause? b under) := by
  match s with
  | .filter a f p =>
      refine (leafClause_outline b _ f p).bind fun c d h => ?_
      exact .ok (congrArg some h)
  | .countAbove t a f v =>
      simp only [Spec.outline, Spec.clause?]
      cases b.term f (effectiveAlias a under) with
      | error fault => rfl
      | ok t =>
          refine (compareClause_outline .gt (.count t) v).bind fun c d h => ?_
          exact .ok (congrArg some h)
  | .conj cs | .disj cs =>
      refine (clauses_outline b under cs).bind fun ds es h => ?_
      refine .ok (map_outline_combine ?_ h)
      intro cs ds h
      simp only [Clause.outline, Clause.outlineAll_eq, h]
  | .neg c =>
      refine (clause?_outline b under c).bind fun d e h => ?_
      refine .ok ?_
      -- Negation flips clauses by their form, which the outline has kept.
      have hnegate : ∀ o : Option Clause, (o.map Clause.negate).map Clause.outline =
          (o.map Clause.outline).map Clause.negate := by
        rintro (_ | c)
        · rfl
        · exact congrArg some (Clause.outline_negate c)
      rw [hnegate, hnegate, h]
  | .countOf (some c) => exact clause?_outline b under c
  | .named _ a c => exact clause?_outline b (effectiveAlias a under) c
  | .join _ _ _ _ | .limit _ | .offset _ | .orderBy _ _ _ | .groupBy _ _ | .distinct | .having _
  | .countOf none | .idle | .base _ | .namedForeign _ _ _ => rfl

theorem clauses_outline (b : Builder) (under : String) (ss : List Spec) :
    SameOutline (List.map Clause.outline) (Spec.clauses b under (Spec.outlineAll ss))
      (Spec.clauses b under ss) := by
  match ss with
  | [] => rfl
  | s :: rest =>
      refine (clause?_outline b under s).bind fun c d h => ?_
      refine (clauses_outline b under rest).bind fun cs ds hrest => ?_
      refine .ok ?_
      have htoList : ∀ o : Option Clause, o.toList.map Clause.outline =
          (o.map Clause.outline).toList := by
        rintro (_ | c) <;> rfl
      rw [List.map_append, List.map_append, htoList, htoList, h, hrest]

end

/-! ## Changes -/

mutual

theorem changes_outline (under : String) (s : Spec) :
    s.outline.changes under = (s.changes under).map Change.outline := by
  match s with
  | .conj cs | .disj cs => exact changesAll_outline under cs
  | .neg c => exact changes_outline under c
  | .named _ a c => exact changes_outline (effectiveAlias a under) c
  | .having c =>
      simp only [Spec.outline, Spec.changes, List.map_append, changes_outline under c]
      rfl
  | .countOf (some c) =>
      simp only [Spec.outline, Spec.changes, List.map_cons, changes_outline under c]
      rfl
  | .filter _ _ _ | .countAbove _ _ _ _ | .join _ _ _ _ | .limit _ | .offset _ | .orderBy _ _ _
  | .groupBy _ _ | .distinct | .countOf none | .idle | .base _ | .namedForeign _ _ _ => rfl

theorem changesAll_outline (under : String) (ss : List Spec) :
    Spec.changesAll under (Spec.outlineAll ss) = (Spec.changesAll under ss).map Change.outline := by
  match ss with
  | [] => rfl
  | s :: rest =>
      simp only [Spec.outlineAll, Spec.changesAll, List.map_append, changes_outline under s,
        changesAll_outline under rest]

end

/-- Builders of one outline differ in their statements only. -/
theorem Builder.eq_changed_of_outline {b b' : Builder} (h : b'.outline = b.outline) :
    ∃ st : Statement, b' = b.changed (fun _ => st) ∧ st.outline = b.statement.outline := by
  refine ⟨b'.statement, ?_, congrArg Builder.statement h⟩
  cases b
  cases b'
  simp only [outline, changed, Builder.mk.injEq] at h ⊢
  simp [h]

theorem outline_addGroupCondition (s : Statement) (c : Option Clause) :
    (s.addOptional Statement.addGroupCondition c).outline =
      s.outline.addOptional Statement.addGroupCondition (c.map Clause.outline) := by
  cases c <;> simp [Statement.addOptional, Statement.addGroupCondition, Statement.outline]

theorem outline_addCondition (s : Statement) (c : Option Clause) :
    (s.addOptional Statement.addCondition c).outline =
      s.outline.addOptional Statement.addCondition (c.map Clause.outline) := by
  cases c <;> simp [Statement.addOptional, Statement.addCondition, Statement.outline]

section Changed

variable {b : Builder} {st : Statement} (h : st.outline = b.statement.outline)

include h

/-- Changes of statements that do the same to outlines take builders of one outline to builders of one
outline. -/
theorem outline_changed {f g : Statement → Statement} (onOutline : Statement → Statement)
    (hf : ∀ s, (f s).outline = onOutline s.outline) (hg : ∀ s, (g s).outline = onOutline s.outline) :
    ((b.changed fun _ => st).changed f).outline = (b.changed g).outline := by
  simp only [Builder.outline, Builder.changed, hf, hg, h]

omit h in
/-- The outline of a count is accepted if the count is. -/
theorem countOf_outline (count : Value) :
    SameOutline (Option.map fun _ => (0 : Int)) (Builder.countOf count.countOutline)
      (Builder.countOf count) := by
  cases count with
  | int n =>
      simp only [Value.countOutline]
      split <;> rfl
  | _ => rfl

/-- A change and its outline take builders of one outline to builders of one outline. -/
theorem Change.apply_outline (c : Change) :
    SameOutline Builder.outline (c.outline.apply (b.changed fun _ => st)) (c.apply b) := by
  cases c with
  | join k under f n =>
      refine SameOutline.map (f := id) (.refl (b.joinStep f n under k.isOuter)) ?_
      rintro j _ rfl
      have hjoin := outline_changed h (f := (·.addJoin j)) (g := (·.addJoin j)) (·.addJoin j)
        (fun _ => rfl) fun _ => rfl
      exact congrArg (fun b' : Builder =>
        { b' with
          aliases := b.aliases ++ [(n, j.target)]
          trace := b.trace ++ [Event.joined (under ++ "." ++ f) n k.isOuter] }) hjoin
  -- Of a count the outline keeps whether there is one.
  | limit n =>
      refine (countOf_outline n).map fun m n hmn => ?_
      refine outline_changed h (fun s => { s with limit := n.map fun _ => 0 }) ?_ fun _ => rfl
      intro s
      rw [← hmn]
      rfl
  | offset n =>
      refine (countOf_outline n).map fun m n hmn => ?_
      refine outline_changed h (fun s => { s with offset := n.map fun _ => 0 }) ?_ fun _ => rfl
      intro s
      rw [← hmn]
      rfl
  | orderBy under f d =>
      refine SameOutline.map (f := id) (.refl (Spec.sortKey b under f d)) ?_
      rintro k _ rfl
      exact outline_changed h (·.addSorting [k]) (fun _ => rfl) fun _ => rfl
  | groupBy under f =>
      refine SameOutline.map (f := id) (.refl (b.term f under)) ?_
      rintro t _ rfl
      exact outline_changed h (·.addGrouping [t]) (fun _ => rfl) fun _ => rfl
  | distinct => exact .ok (outline_changed h ({ · with distinct := true }) (fun _ => rfl) fun _ => rfl)
  | having under child =>
      simp only [Change.outline, Change.apply, Spec.clause?_changed]
      refine (clause?_outline b under child).map fun c d hcd => ?_
      refine outline_changed h (fun s =>
        s.addOptional Statement.addGroupCondition (d.map Clause.outline)) ?_ ?_
      · intro s
        rw [← hcd, outline_addGroupCondition]
      · intro s
        rw [outline_addGroupCondition]
  | countRows => exact .ok (outline_changed h Statement.countRows (fun _ => rfl) fun _ => rfl)

end Changed

/-- Whether two runs have one outcome, up to the content of values, and leave builders of one outline. -/
def SameRun (x y : Except Fault Unit × Builder) : Prop :=
  SameOutline id x.1 y.1 ∧ x.2.outline = y.2.outline

/-- Changes and their outlines run alike. -/
theorem Change.applyAll_outline {b b' : Builder} (h : b'.outline = b.outline) (cs : List Change) :
    SameRun (applyAll b' (cs.map outline)) (applyAll b cs) := by
  induction cs generalizing b b' with
  | nil => exact ⟨rfl, h⟩
  | cons c rest ih =>
      obtain ⟨st, rfl, hst⟩ := Builder.eq_changed_of_outline h
      rw [List.map_cons, applyAll, applyAll]
      rcases (apply_outline hst c).cases with ⟨b₁, b₂, h₁, h₂, h⟩ | ⟨e, e', h₁, h₂, he⟩
      · rw [h₁, h₂]
        exact ih h
      · rw [h₁, h₂]
        exact ⟨congrArg Except.error he, h⟩

/-! ## Applying a tree -/

namespace Spec

/-- A specification and its outline do the same, up to the content of values. -/
theorem apply_outline (b : Builder) (under : String) (s : Spec) :
    SameRun (runFrom b (s.outline.apply under)) (runFrom b (s.apply under)) := by
  have hchanges := Change.applyAll_outline (b := b) rfl (s.changes under)
  rw [run_apply, run_apply, changes_outline]
  generalize Change.applyAll b ((s.changes under).map Change.outline) = x at hchanges ⊢
  generalize Change.applyAll b (s.changes under) = y at hchanges ⊢
  obtain ⟨outcome', b'⟩ := x
  obtain ⟨outcome, b₁⟩ := y
  obtain ⟨houtcome, hbuilder⟩ := hchanges
  rcases SameOutline.cases houtcome with ⟨_, _, rfl, rfl, -⟩ | ⟨e, e', rfl, rfl, he⟩
  · -- The changes are made, and the condition is added to statements of one outline.
    obtain ⟨st, rfl, hst⟩ := Builder.eq_changed_of_outline hbuilder
    simp only [clause?_changed]
    rcases (clause?_outline b₁ under s).cases with ⟨c, d, hc, hd, hcd⟩ | ⟨e, e', hc, hd, he⟩
    · rw [hc, hd]
      refine ⟨rfl, outline_changed hst (fun s =>
        s.addOptional Statement.addCondition (d.map Clause.outline)) ?_ ?_⟩
      · intro s
        rw [← hcd, outline_addCondition]
      · intro s
        rw [outline_addCondition]
    · rw [hc, hd]
      exact ⟨congrArg Except.error he, hbuilder⟩
  · -- The changes fail, before any condition is built.
    exact ⟨congrArg Except.error he, hbuilder⟩

end Spec
end Criteria
