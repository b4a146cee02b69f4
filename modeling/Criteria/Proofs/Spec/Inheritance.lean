import Criteria.Proofs.Spec.Change
import Criteria.Proofs.Spec.Place

/-!
# How aliases are handed down

A node without an alias of its own works on the alias that it is applied under, and hands it down to its children.
The same comes of writing the alias into every such node beforehand (`Spec.settle`): the tree then does under any
alias what it did under that one (`Spec.apply_settle`). A reusable specification with an alias is its tree settled
by it, wherever it stands (`Spec.aliases_handed_down`). An empty alias stands for none, also where it is handed
down, so that a tree settled by it still works on what it is applied under (`Spec.empty_alias_handed_through`).
-/

namespace Criteria

/-! ## Effective aliases -/

/-- An alias that is settled beforehand is the one that is found, unless it is empty. -/
theorem effectiveAlias_settled (own : Option String) (a b : String) :
    effectiveAlias (some (effectiveAlias own a)) b = effectiveAlias own (effectiveAlias (some a) b) := by
  cases own with
  | none => rfl
  | some x =>
      cases hx : x.isEmpty with
      | true => simp only [effectiveAlias, hx, if_true]
      | false => simp only [effectiveAlias, hx, Bool.false_eq_true, if_false]

/-- It is found again however often it is handed down. -/
theorem effectiveAlias_again (a b : String) :
    effectiveAlias (some a) (effectiveAlias (some a) b) = effectiveAlias (some a) b := by
  cases ha : a.isEmpty with
  | true => simp only [effectiveAlias, ha, if_true]
  | false => simp only [effectiveAlias, ha, Bool.false_eq_true, if_false]

namespace Spec

/-! ## Settled trees -/

mutual

/-- A tree with an alias written into every node whose own is missing or empty. A reusable specification with an
alias of its own has that one written into its tree instead. -/
def settle (a : String) : Spec → Spec
  | .filter own f p => .filter (some (effectiveAlias own a)) f p
  | .countAbove t own f v => .countAbove t (some (effectiveAlias own a)) f v
  | .conj cs => .conj (settleAll a cs)
  | .disj cs => .disj (settleAll a cs)
  | .neg c => .neg (settle a c)
  | .join k own f n => .join k (some (effectiveAlias own a)) f n
  | .orderBy own f d => .orderBy (some (effectiveAlias own a)) f d
  | .groupBy own f => .groupBy (some (effectiveAlias own a)) f
  | .having c => .having (settle a c)
  | .countOf (some c) => .countOf (some (settle a c))
  | .base own => .base (some (effectiveAlias own a))
  | .named t own c => .named t (some (effectiveAlias own a)) (settle (effectiveAlias own a) c)
  | .namedForeign t own v => .namedForeign t (some (effectiveAlias own a)) v
  | s => s

def settleAll (a : String) : List Spec → List Spec
  | [] => []
  | s :: rest => settle a s :: settleAll a rest

end

theorem isFilter_settle (a : String) (s : Spec) : (s.settle a).isFilter = s.isFilter := by
  cases s with
  | countOf c => cases c <;> rfl
  | _ => rfl

mutual

/-- A settled tree builds under any alias the condition that the tree builds under the alias settled on. -/
theorem clause?_settle (builder : Builder) (a b : String) (s : Spec) :
    (s.settle a).clause? builder b = s.clause? builder (effectiveAlias (some a) b) := by
  match s with
  | .filter own f p => rw [settle, clause?, clause?, effectiveAlias_settled]
  | .countAbove t own f v => rw [settle, clause?, clause?, effectiveAlias_settled]
  | .conj cs | .disj cs => rw [settle, clause?, clause?, clauses_settleAll builder a b cs]
  | .neg c => rw [settle, clause?, clause?, clause?_settle builder a b c]
  | .countOf (some c) => rw [settle, clause?, clause?, clause?_settle builder a b c]
  | .named t own c =>
      rw [settle, clause?, clause?, clause?_settle builder _ _ c, effectiveAlias_again, effectiveAlias_settled]
  | .join _ _ _ _ | .limit _ | .offset _ | .orderBy _ _ _ | .groupBy _ _ | .distinct | .having _
  | .countOf none | .idle | .base _ | .namedForeign _ _ _ => rfl

theorem clauses_settleAll (builder : Builder) (a b : String) (cs : List Spec) :
    clauses builder b (settleAll a cs) = clauses builder (effectiveAlias (some a) b) cs := by
  match cs with
  | [] => rfl
  | s :: rest =>
      rw [settleAll, clauses, clauses, clause?_settle builder a b s, clauses_settleAll builder a b rest]

end

/-- The condition of a settled tree is added where that of the tree is. -/
theorem addClause_settle (add : Statement → Clause → Statement) (a b : String) (s : Spec) :
    addClause add b (s.settle a) = addClause add (effectiveAlias (some a) b) s := by
  simp only [addClause, clause?_settle]

mutual

/-- A settled tree makes under any alias the changes that the tree makes under the alias settled on. -/
theorem modify_settle (a b : String) (s : Spec) :
    (s.settle a).modify b = s.modify (effectiveAlias (some a) b) := by
  match s with
  | .conj cs | .disj cs => rw [settle, modify, modify, modifyAll_settleAll a b cs]
  | .neg c => rw [settle, modify, modify, modify_settle a b c]
  | .join k own f n => rw [settle, modify, modify, effectiveAlias_settled]
  | .orderBy own f d => rw [settle, modify, modify, effectiveAlias_settled]
  | .groupBy own f => rw [settle, modify, modify, effectiveAlias_settled]
  | .having c => rw [settle, modify, modify, modify_settle a b c, addClause_settle]
  | .countOf (some c) => rw [settle, modify, modify, modify_settle a b c]
  | .named t own c =>
      rw [settle, modify, modify, modify_settle _ _ c, effectiveAlias_again, effectiveAlias_settled]
  | .limit _ | .offset _ | .distinct | .countOf none | .filter _ _ _ | .countAbove _ _ _ _ | .idle | .base _
  | .namedForeign _ _ _ => rfl

theorem modifyAll_settleAll (a b : String) (cs : List Spec) :
    modifyAll b (settleAll a cs) = modifyAll (effectiveAlias (some a) b) cs := by
  match cs with
  | [] => rfl
  | s :: rest => rw [settleAll, modifyAll, modifyAll, modify_settle a b s, modifyAll_settleAll a b rest]

end

/-- **Aliases are handed down.** A tree settled by an alias does under any other what the tree does under that
alias. -/
theorem apply_settle (a b : String) (s : Spec) :
    (s.settle a).apply b = s.apply (effectiveAlias (some a) b) := by
  rw [apply, apply, modify_settle, addClause_settle]

/-- A reusable specification with an alias is its tree settled by it. -/
theorem sameEffect_named (typeName a : String) (s : Spec) :
    (Spec.named typeName (some a) s).SameEffect (s.settle a) where
  modify under := by rw [modify_settle, modify]
  clause builder under := by rw [clause?_settle, clause?]

/-- **Aliases are handed down by substitution.** From every builder, a tree settled by `a` does under any alias `b`
what the tree does under `a`, or under `b` if `a` is empty, and so does a reusable specification with the alias
`a` that stands for the tree. At every place of a larger tree that can be filled with both, the two are the same. -/
theorem aliases_handed_down (s : Spec) (typeName a b : String) (place : Place) :
    let found := if a.isEmpty then b else a
    (∀ builder, runFrom builder ((s.settle a).apply b) = runFrom builder (s.apply found)) ∧
    (∀ builder, runFrom builder ((Spec.named typeName (some a) s).apply b) = runFrom builder (s.apply found)) ∧
    ((place.needsFilter = true → s.isFilter = true) →
      MadeAlike (fun s t => ∀ builder, runFrom builder (s.apply b) = runFrom builder (t.apply b))
        (place.fill (.spec (.named typeName (some a) s))) (place.fill (.spec (s.settle a)))) := by
  intro found
  have hsettled : (s.settle a).apply b = s.apply found := apply_settle a b s
  have hnamed : (Spec.named typeName (some a) s).apply b = (s.settle a).apply b :=
    (sameEffect_named typeName a s).apply b
  refine ⟨?_, ?_, ?_⟩
  · intro builder
    rw [hsettled]
  · intro builder
    rw [hnamed, hsettled]
  · intro hfilter
    -- The nodes around the place take the effect of their child over.
    have hmade := place.fill_congr SameEffect.congruence (sameEffect_named typeName a s) fun hplace =>
      admittedAlike_of_isFilter rfl ((isFilter_settle a s).trans (hfilter hplace))
    apply MadeAlike.mono ?_ hmade
    intro s t h builder
    rw [h.apply b]

/-- The titles of posts can be negated as a reusable specification, or by the alias of the posts. -/
theorem titles_negated :
    let title : Spec := .filter none "title" (.isNull true)
    title.isFilter = true ∧ ∀ builder,
      runFrom builder ((Spec.neg (.named "Titled" (some "p") title)).apply defaultAlias) =
        runFrom builder ((Spec.neg (title.settle "p")).apply defaultAlias) := by
  intro title
  refine ⟨rfl, ?_⟩
  obtain ⟨-, -, hplaced⟩ := aliases_handed_down title "Titled" "p" defaultAlias [.neg]
  rcases hplaced fun _ => rfl with ⟨f, hs, -⟩ | ⟨s, t, hs, ht, hrun⟩
  · cases hs
  · cases hs
    cases ht
    exact hrun

/-- An empty alias is not handed down, even where posts are joined under it: a tree settled by it works on the users
that it is applied under, while under the empty alias itself it works on the posts. -/
theorem empty_alias_handed_through :
    let joined := (runFrom (Builder.ofEntity .user "e") (Builder.join "posts" "" "e" false)).2
    let first : Spec := .filter none "id" (.compare true .eq (.int 1))
    let settled := runFrom joined ((first.settle "").apply "e")
    let plain := runFrom joined (first.apply "")
    (settled.1 = .ok () ∧ Clause.sourcesOf settled.2.statement.conditions = [.table .user]) ∧
      plain.1 = .ok () ∧ Clause.sourcesOf plain.2.statement.conditions = [.joined "" .post] := by
  intro joined first settled plain
  refine ⟨⟨rfl, rfl⟩, rfl, rfl⟩

end Spec
end Criteria
