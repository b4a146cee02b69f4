import Criteria.Proofs.Spec.Change
import Criteria.Proofs.Statement.Moments

/-!
# Specifications with their moments changed

A specification compares with moments in its leaves: in comparisons, in bounds and in lists. Changing them in the
tree changes them in the statement that the tree makes, and nothing else (`Spec.apply_onMoments`): the other tree
is refused where the one is, with the same fault, and leaves the same builder otherwise.
-/

namespace Criteria

/-! ## Changed moments -/

/-- A predicate with its moments changed: those it compares with by `g`, those in its list by `h`. The text of a
moment in a pattern is none. -/
def Predicate.onMoments (g h : DateTime → DateTime) : Predicate → Predicate
  | .compare named r v => .compare named r (v.onMoment g)
  | .member n vs => .member n (vs.map (Value.onMoment h))
  | .between l u => .between (l.onMoment g) (u.onMoment g)
  | p => p

namespace Spec

mutual

/-- A specification with its moments changed: those it compares with by `g`, those in its lists by `h`. -/
def onMoments (g h : DateTime → DateTime) : Spec → Spec
  | .filter a f p => .filter a f (p.onMoments g h)
  | .countAbove t a f v => .countAbove t a f (v.onMoment g)
  | .conj cs => .conj (allOnMoments g h cs)
  | .disj cs => .disj (allOnMoments g h cs)
  | .neg c => .neg (onMoments g h c)
  | .having c => .having (onMoments g h c)
  | .countOf (some c) => .countOf (some (onMoments g h c))
  | .named t a c => .named t a (onMoments g h c)
  | s => s

def allOnMoments (g h : DateTime → DateTime) : List Spec → List Spec
  | [] => []
  | s :: rest => onMoments g h s :: allOnMoments g h rest

end

end Spec

theorem Predicate.onMoments_id (p : Predicate) : p.onMoments id id = p := by
  cases p <;> simp [onMoments]

namespace Spec

mutual

/-- Moments that are left alone leave a tree alone. -/
theorem onMoments_id (s : Spec) : s.onMoments id id = s := by
  match s with
  | .filter a f p => simp only [onMoments, Predicate.onMoments_id]
  | .countAbove t a f v => simp only [onMoments, Value.onMoment_id]
  | .conj cs | .disj cs => simp only [onMoments, allOnMoments_id cs]
  | .neg c | .having c | .countOf (some c) | .named _ _ c => simp only [onMoments, onMoments_id c]
  | .join _ _ _ _ | .limit _ | .offset _ | .orderBy _ _ _ | .groupBy _ _ | .distinct
  | .countOf none | .idle | .base _ | .namedForeign _ _ _ => rfl

theorem allOnMoments_id (ss : List Spec) : allOnMoments id id ss = ss := by
  match ss with
  | [] => rfl
  | s :: rest => rw [allOnMoments, onMoments_id s, allOnMoments_id rest]

end

end Spec

def Change.onMoments (g h : DateTime → DateTime) : Change → Change
  | .having under c => .having under (c.onMoments g h)
  | c => c

def Builder.onMoments (g h : DateTime → DateTime) (b : Builder) : Builder :=
  b.changed (Statement.onMoments g h)

section OnMoments

variable (g h : DateTime → DateTime)

/-! ## Conditions -/

theorem compareClause_onMoment (r : Relation) (s : Subject) (v : Value) :
    Predicate.compareClause r s (v.onMoment g) =
      (Predicate.compareClause r s v).map (Clause.onMoments g h) := by
  cases v <;> cases r <;> rfl

theorem onColumn_onMoments (c : ColumnRef) (p : Predicate) :
    (p.onMoments g h).onColumn c = (p.onColumn c).map (Clause.onMoments g h) := by
  cases p with
  | compare named r v => exact compareClause_onMoment g h r (.column c) v
  | member n vs | between l u | isNull n | like p v | unsaid => rfl

/-- A relationship is compared with no moment. -/
theorem onRelationship_onMoments (s : Source) (r : Relationship) (p : Predicate) :
    (p.onMoments g h).onRelationship s r = (p.onRelationship s r).map (Clause.onMoments g h) := by
  cases p with
  | compare named rel v => cases r <;> cases v <;> cases rel <;> rfl
  | member n vs | isNull n | like p v | between l u | unsaid => rfl

/-- Nor is an attribute of a class: a text does not differ from one moment more than from another. -/
theorem onAttribute_onMoments (a : Attribute) (p : Predicate) :
    (p.onMoments g h).onAttribute a = (p.onAttribute a).map (Clause.onMoments g h) := by
  cases p with
  | compare named r v => cases a <;> cases v <;> cases r <;> rfl
  | member n vs | isNull n | like p v | between l u | unsaid => rfl

theorem leafClause_onMoments (b : Builder) (under field : String) (p : Predicate) :
    Spec.leafClause b under field (p.onMoments g h) =
      (Spec.leafClause b under field p).map (Clause.onMoments g h) := by
  unfold Spec.leafClause
  cases b.field field under with
  | error f => rfl
  | ok target =>
      rcases target with ⟨s, c | r | a⟩
      · exact onColumn_onMoments g h ⟨s, c⟩ p
      · exact onRelationship_onMoments g h s r p
      · exact onAttribute_onMoments g h a p

/-- What is done to every clause of a combination can be done before they are combined. -/
theorem combine_map {join : List Clause → Clause} {f : Clause → Clause}
    (hjoin : ∀ cs, f (join cs) = join (cs.map f)) (cs : List Clause) :
    Spec.combine join (cs.map f) = (Spec.combine join cs).map f := by
  rcases cs with _ | ⟨c, _ | ⟨d, rest⟩⟩
  · rfl
  · rfl
  · exact congrArg some (hjoin (c :: d :: rest)).symm

mutual

/-- The condition of a tree with other moments is the condition of the tree, with these moments. -/
theorem clause?_onMoments (b : Builder) (under : String) (s : Spec) :
    (s.onMoments g h).clause? b under =
      (s.clause? b under).map (Option.map (Clause.onMoments g h)) := by
  match s with
  | .filter a f p =>
      simp only [Spec.onMoments, Spec.clause?, leafClause_onMoments]
      cases Spec.leafClause b (effectiveAlias a under) f p <;> rfl
  | .countAbove t a f v =>
      simp only [Spec.onMoments, Spec.clause?]
      cases b.term f (effectiveAlias a under) with
      | error fault => rfl
      | ok t =>
          simp only [bind, Except.bind, compareClause_onMoment g h]
          cases Predicate.compareClause .gt (.count t) v <;> rfl
  | .conj cs | .disj cs =>
      simp only [Spec.onMoments, Spec.clause?, clauses_onMoments b under cs]
      cases Spec.clauses b under cs with
      | error f => rfl
      | ok ds =>
          refine congrArg Except.ok (combine_map ?_ ds)
          intro cs
          simp only [Clause.onMoments, Clause.allOnMoments_eq]
  | .neg c =>
      simp only [Spec.onMoments, Spec.clause?, clause?_onMoments b under c]
      rcases c.clause? b under with f | _ | d
      · rfl
      · rfl
      · exact congrArg (fun d => Except.ok (some d)) (Clause.onMoments_negate g h d).symm
  | .countOf (some c) => exact clause?_onMoments b under c
  | .named _ a c => exact clause?_onMoments b (effectiveAlias a under) c
  | .join _ _ _ _ | .limit _ | .offset _ | .orderBy _ _ _ | .groupBy _ _ | .distinct | .having _
  | .countOf none | .idle | .base _ | .namedForeign _ _ _ => rfl

theorem clauses_onMoments (b : Builder) (under : String) (ss : List Spec) :
    Spec.clauses b under (Spec.allOnMoments g h ss) =
      (Spec.clauses b under ss).map (List.map (Clause.onMoments g h)) := by
  match ss with
  | [] => rfl
  | s :: rest =>
      simp only [Spec.allOnMoments, Spec.clauses, clause?_onMoments b under s,
        clauses_onMoments b under rest]
      rcases s.clause? b under with f | _ | c
      · rfl
      · cases Spec.clauses b under rest <;> rfl
      · cases Spec.clauses b under rest <;> rfl

end

/-! ## Changes -/

mutual

/-- The changes of a tree with other moments are its changes, with these moments. -/
theorem changes_onMoments (under : String) (s : Spec) :
    (s.onMoments g h).changes under = (s.changes under).map (Change.onMoments g h) := by
  match s with
  | .conj cs | .disj cs => exact changesAll_onMoments under cs
  | .neg c => exact changes_onMoments under c
  | .named _ a c => exact changes_onMoments (effectiveAlias a under) c
  | .having c =>
      simp only [Spec.onMoments, Spec.changes, List.map_append, changes_onMoments under c]
      rfl
  | .countOf (some c) =>
      simp only [Spec.onMoments, Spec.changes, List.map_cons, changes_onMoments under c]
      rfl
  | .filter _ _ _ | .countAbove _ _ _ _ | .join _ _ _ _ | .limit _ | .offset _ | .orderBy _ _ _
  | .groupBy _ _ | .distinct | .countOf none | .idle | .base _ | .namedForeign _ _ _ => rfl

theorem changesAll_onMoments (under : String) (ss : List Spec) :
    Spec.changesAll under (Spec.allOnMoments g h ss) =
      (Spec.changesAll under ss).map (Change.onMoments g h) := by
  match ss with
  | [] => rfl
  | s :: rest =>
      simp only [Spec.allOnMoments, Spec.changesAll, List.map_append, changes_onMoments under s,
        changesAll_onMoments under rest]

end

theorem addGroupCondition_onMoments (s : Statement) (c : Option Clause) :
    (s.addOptional Statement.addGroupCondition c).onMoments g h =
      (s.onMoments g h).addOptional Statement.addGroupCondition (c.map (Clause.onMoments g h)) := by
  cases c <;> simp [Statement.addOptional, Statement.addGroupCondition, Statement.onMoments]

theorem addCondition_onMoments (s : Statement) (c : Option Clause) :
    (s.addOptional Statement.addCondition c).onMoments g h =
      (s.onMoments g h).addOptional Statement.addCondition (c.map (Clause.onMoments g h)) := by
  cases c <;> simp [Statement.addOptional, Statement.addCondition, Statement.onMoments]

/-- A change with other moments makes of a builder with these moments what the change makes of the builder. -/
theorem Change.apply_onMoments (b : Builder) (c : Change) :
    (c.onMoments g h).apply (b.onMoments g h) = (c.apply b).map (Builder.onMoments g h) := by
  -- Only a condition on groups brings moments into the statement; the rest asks the aliases.
  cases c with
  | join k under f n =>
      have hstep : (b.onMoments g h).joinStep f n under k.isOuter = b.joinStep f n under k.isOuter := rfl
      simp only [onMoments, apply, hstep]
      cases b.joinStep f n under k.isOuter <;> rfl
  | limit n | offset n =>
      simp only [onMoments, apply]
      cases Builder.countOf n <;> rfl
  | orderBy under f d =>
      have hkey : Spec.sortKey (b.onMoments g h) under f d = Spec.sortKey b under f d := rfl
      simp only [onMoments, apply, hkey]
      cases Spec.sortKey b under f d <;> rfl
  | groupBy under f =>
      have hterm : (b.onMoments g h).term f under = b.term f under := rfl
      simp only [onMoments, apply, hterm]
      cases b.term f under <;> rfl
  | distinct | countRows => rfl
  | having under child =>
      simp only [onMoments, apply, Builder.onMoments, Spec.clause?_changed, clause?_onMoments]
      cases child.clause? b under with
      | error f => rfl
      | ok c =>
          refine congrArg Except.ok ?_
          simp only [Builder.onMoments, Builder.changed, addGroupCondition_onMoments]

theorem Change.applyAll_onMoments (b : Builder) (cs : List Change) :
    applyAll (b.onMoments g h) (cs.map (onMoments g h)) =
      ((applyAll b cs).1, (applyAll b cs).2.onMoments g h) := by
  induction cs generalizing b with
  | nil => rfl
  | cons c rest ih =>
      rw [List.map_cons, applyAll, applyAll, apply_onMoments]
      cases c.apply b with
      | error f => rfl
      | ok b₁ => exact ih b₁

/-! ## Applying a tree -/

/-- **Moments of a tree are moments of its statement.** Where the moments of a builder and of a tree are
changed, the tree is applied as before, and the moments of the builder that it leaves are changed. -/
theorem Spec.apply_onMoments (b : Builder) (under : String) (s : Spec) :
    runFrom (b.onMoments g h) ((s.onMoments g h).apply under) =
      ((runFrom b (s.apply under)).1, (runFrom b (s.apply under)).2.onMoments g h) := by
  rw [run_apply, run_apply, changes_onMoments, Change.applyAll_onMoments]
  rcases Change.applyAll b (s.changes under) with ⟨f | u, b₁⟩
  · rfl
  · simp only [Builder.onMoments, clause?_changed, clause?_onMoments]
    cases s.clause? b₁ under with
    | error f => rfl
    | ok c =>
        refine congrArg (Prod.mk (Except.ok ())) ?_
        simp only [Builder.changed, addCondition_onMoments]

end OnMoments
end Criteria
