import Criteria.Proofs.Spec.Change
import Criteria.Proofs.Spec.Place
import Criteria.Proofs.Statement.Grouping

/-!
# Grouping in specifications

A conjunction among the children of a conjunction can be replaced by its own children, and so can a disjunction
within a disjunction: the changes are visited in the same order, and the conditions have the same flat form
(`Spec.Connective.regrouped_nested`). A child that says nothing can be left out. Specifications that differ in
grouping only (`Spec.Regrouped`) leave builders whose statements have the same flat form, with the same aliases or
up to the same fault, and every node takes the relation over from a child (`Spec.Regrouped.congruence`).
-/

namespace Criteria

/-! ## Statements and builders -/

/-- Statements that differ in the grouping of their conditions only. -/
def Statement.Regrouped (s t : Statement) : Prop := s.flat = t.flat

theorem Statement.regrouped_refl (s : Statement) : s.Regrouped s := rfl

/-- A way of adding conditions that does not look at their grouping. -/
def Statement.AddsFlat (add : Statement → Clause → Statement) : Prop :=
  ∀ s c, (add s c).flat = add s.flat c.flat

theorem Statement.addsFlat_addCondition : AddsFlat addCondition := by
  intro s c
  simp only [flat, addCondition, List.map_append, List.map_singleton]

theorem Statement.addsFlat_addGroupCondition : AddsFlat addGroupCondition := by
  intro s c
  simp only [flat, addGroupCondition, List.map_append, List.map_singleton]

theorem Statement.Regrouped.addOptional {s t : Statement} (h : s.Regrouped t)
    {add : Statement → Clause → Statement} (hadd : AddsFlat add) {x y : Option Clause}
    (hxy : x.map Clause.flat = y.map Clause.flat) : (s.addOptional add x).Regrouped (t.addOptional add y) := by
  have hflat : ∀ (s : Statement) x, (s.addOptional add x).flat = s.flat.addOptional add (x.map Clause.flat) := by
    rintro s (_ | c)
    · rfl
    · exact hadd s c
  show (s.addOptional add x).flat = (t.addOptional add y).flat
  rw [hflat, hflat, hxy]
  exact congrArg (Statement.addOptional add · _) h

theorem Builder.Alike.changed {b c : Builder} (h : b.Alike Statement.Regrouped c) {f g : Statement → Statement}
    (hfg : (f b.statement).Regrouped (g c.statement)) :
    (b.changed f).Alike Statement.Regrouped (c.changed g) := by
  refine ⟨?_, hfg⟩
  rw [h.rest]
  rfl

/-- What leaves conditions alone is done to both. -/
theorem Builder.Alike.changed_both {b c : Builder} (h : b.Alike Statement.Regrouped c)
    {f : Statement → Statement} (hf : ∀ s, (f s).flat = f s.flat) :
    (b.changed f).Alike Statement.Regrouped (c.changed f) := by
  apply h.changed
  show (f b.statement).flat = (f c.statement).flat
  rw [hf, hf]
  exact congrArg f h.statement

/-! ## Changes -/

/-- What two builders are asked has one answer, and what they become by it is alike. -/
theorem asked_alike {α : Type} {R : Statement → Statement → Prop} (x : Except Fault α) {f g : α → Builder}
    (h : ∀ a, (f a).Alike R (g a)) :
    (∃ fault, x.map f = .error fault ∧ x.map g = .error fault) ∨
      ∃ b c, x.map f = .ok b ∧ x.map g = .ok c ∧ b.Alike R c := by
  cases x with
  | error fault => exact .inl ⟨fault, rfl, rfl⟩
  | ok a => exact .inr ⟨f a, g a, rfl, rfl, h a⟩

namespace Change

/-- A change does not see how conditions are grouped. -/
theorem apply_regrouped {b c : Builder} (h : b.Alike Statement.Regrouped c) (change : Change) :
    (∃ fault, change.apply b = .error fault ∧ change.apply c = .error fault) ∨
      ∃ b' c', change.apply b = .ok b' ∧ change.apply c = .ok c' ∧ b'.Alike Statement.Regrouped c' := by
  obtain ⟨st, rfl, hst⟩ : ∃ st, c = b.changed (fun _ => st) ∧ b.statement.Regrouped st :=
    ⟨c.statement, h.rest, h.statement⟩
  -- What a change asks, it asks the aliases, which do not show the grouping.
  cases change with
  | join k under f n =>
      apply asked_alike (b.joinStep f n under k.isOuter)
      intro j
      exact ⟨rfl, congrArg (Statement.addJoin · j) hst⟩
  | limit count =>
      apply asked_alike (Builder.countOf count)
      intro n
      exact h.changed_both fun _ => rfl
  | offset count =>
      apply asked_alike (Builder.countOf count)
      intro n
      exact h.changed_both fun _ => rfl
  | orderBy under f d =>
      apply asked_alike (Spec.sortKey b under f d)
      intro k
      exact h.changed_both fun _ => rfl
  | groupBy under f =>
      apply asked_alike (b.term f under)
      intro t
      exact h.changed_both fun _ => rfl
  | having under child =>
      rw [apply, apply, Spec.clause?_changed]
      apply asked_alike (child.clause? b under)
      intro o
      exact h.changed (hst.addOptional Statement.addsFlat_addGroupCondition rfl)
  | distinct => exact .inr ⟨_, _, rfl, rfl, h.changed_both fun _ => rfl⟩
  | countRows => exact .inr ⟨_, _, rfl, rfl, h.changed_both fun _ => rfl⟩

/-- Neither do several changes. -/
theorem applyAll_regrouped {b c : Builder} (h : b.Alike Statement.Regrouped c) (cs : List Change) :
    RunsAlike (Builder.Alike Statement.Regrouped) (applyAll b cs) (applyAll c cs) := by
  induction cs generalizing b c with
  | nil => exact ⟨rfl, h⟩
  | cons change rest ih =>
      rw [applyAll, applyAll]
      rcases apply_regrouped h change with ⟨fault, hb, hc⟩ | ⟨b', c', hb, hc, h'⟩
      · rw [hb, hc]
        exact ⟨rfl, h⟩
      · rw [hb, hc]
        exact ih h'

end Change

/-! ## Conditions -/

/-- Conditions of one flat form are refused alike, or both there. -/
theorem conditions_alike {x y : Except Fault (Option Clause)}
    (h : x.map (Option.map Clause.flat) = y.map (Option.map Clause.flat)) :
    (∃ fault, x = .error fault ∧ y = .error fault) ∨
      ∃ c d, x = .ok c ∧ y = .ok d ∧ c.map Clause.flat = d.map Clause.flat := by
  cases x with
  | error fault =>
      cases y with
      | error fault' =>
          cases h
          exact .inl ⟨fault, rfl, rfl⟩
      | ok d => cases h
  | ok c =>
      cases y with
      | error fault' => cases h
      | ok d => exact .inr ⟨c, d, rfl, rfl, Except.ok.inj h⟩

namespace Spec

/-- Several conditions are joined, whatever they are. -/
theorem combine_of_two {join : List Clause → Clause} {cs : List Clause} (h : 2 ≤ cs.length) :
    combine join cs = some (join cs) := by
  rcases cs with _ | ⟨c, _ | ⟨d, rest⟩⟩
  · simp at h
  · simp at h
  · rfl

/-- Conditions are built from left to right. -/
theorem clauses_append (b : Builder) (under : String) (cs ds : List Spec) :
    clauses b under (cs ++ ds) = (do
      let xs ← clauses b under cs
      let ys ← clauses b under ds
      .ok (xs ++ ys)) := by
  induction cs with
  | nil =>
      show clauses b under ds = clauses b under ds >>= fun ys => .ok ys
      cases clauses b under ds <;> rfl
  | cons c rest ih =>
      rw [List.cons_append, clauses, clauses, ih]
      cases c.clause? b under with
      | error f => rfl
      | ok o =>
          cases clauses b under rest with
          | error f => rfl
          | ok xs =>
              cases clauses b under ds with
              | error f => rfl
              | ok ys => simp only [bind, Except.bind, List.append_assoc]

/-! ## Connectives -/

/-- A kind of node that makes the changes of its children and joins their conditions, so that grouping is lost in
the flat form. -/
structure Connective (node : List Spec → Spec) (join : List Clause → Clause) : Prop where
  modify : ∀ under cs, (node cs).modify under = modifyAll under cs
  changes : ∀ under cs, (node cs).changes under = changesAll under cs
  clause : ∀ b under cs, (node cs).clause? b under = do .ok (combine join (← clauses b under cs))
  congr : ∀ cs ds, cs.map Clause.flat = ds.map Clause.flat → (join cs).flat = (join ds).flat
  nested : ∀ cs ds es, (join (cs ++ join ds :: es)).flat = (join (cs ++ ds ++ es)).flat

theorem connective_conj : Connective .conj .conj where
  modify _ _ := rfl
  changes _ _ := rfl
  clause _ _ _ := rfl
  congr cs ds h := by rw [Clause.flat, Clause.flat, Clause.flatAll_eq, Clause.flatAll_eq, h]
  nested := Clause.flat_conj_nested

theorem connective_disj : Connective .disj .disj where
  modify _ _ := rfl
  changes _ _ := rfl
  clause _ _ _ := rfl
  congr cs ds h := by rw [Clause.flat, Clause.flat, Clause.flatAll_eq, Clause.flatAll_eq, h]
  nested := Clause.flat_disj_nested

namespace Connective

variable {node : List Spec → Spec} {join : List Clause → Clause} (hnode : Connective node join)

include hnode

/-- The flat form of what is joined is that of the parts, joined. -/
theorem flat_combine_congr {cs ds : List Clause} (h : cs.map Clause.flat = ds.map Clause.flat) :
    (combine join cs).map Clause.flat = (combine join ds).map Clause.flat := by
  have hlength : cs.length = ds.length := by simpa using congrArg List.length h
  rcases cs with _ | ⟨c, _ | ⟨c', cs⟩⟩
  · rw [List.length_eq_zero_iff.mp hlength.symm]
  · obtain ⟨d, rfl⟩ := List.length_eq_one_iff.mp hlength.symm
    exact congrArg List.head? h
  · have htwo : 2 ≤ (c :: c' :: cs).length := Nat.le_add_left 2 cs.length
    rw [combine_of_two htwo, combine_of_two (hlength ▸ htwo)]
    exact congrArg some (hnode.congr _ _ h)

/-- Joined conditions among others give the flat form that they give one by one. -/
theorem flat_combine_nested (cs ds es : List Clause) :
    (combine join (cs ++ (combine join ds).toList ++ es)).map Clause.flat =
      (combine join (cs ++ ds ++ es)).map Clause.flat := by
  rcases ds with _ | ⟨d, _ | ⟨d', rest⟩⟩
  · rfl
  · rfl
  · have hmany : 2 ≤ (cs ++ d :: d' :: rest ++ es).length := by
      simp only [List.length_append, List.length_cons]
      omega
    rw [combine_of_two hmany]
    show (combine join (cs ++ [join (d :: d' :: rest)] ++ es)).map Clause.flat = _
    -- Alone, the joined conditions are the whole; beside others they are a nested part.
    by_cases halone : cs = [] ∧ es = []
    · obtain ⟨rfl, rfl⟩ := halone
      simp [combine]
    · have hseveral : 2 ≤ (cs ++ [join (d :: d' :: rest)] ++ es).length := by
        have hbeside : cs.length ≠ 0 ∨ es.length ≠ 0 := by
          simpa only [ne_eq, List.length_eq_zero_iff, ← not_and_or] using halone
        simp only [List.length_append, List.length_cons, List.length_nil]
        omega
      rw [combine_of_two hseveral, List.append_assoc, List.singleton_append, Option.map_some, Option.map_some,
        hnode.nested]

end Connective

/-! ## Specifications -/

/-- Specifications that differ in grouping only: they change builders alike, and their conditions have one flat
form. -/
structure Regrouped (s t : Spec) : Prop where
  modifies : ∀ under b c, b.Alike Statement.Regrouped c →
    RunsAlike (Builder.Alike Statement.Regrouped) (runFrom b (s.modify under)) (runFrom c (t.modify under))
  conditions : ∀ b under,
    (s.clause? b under).map (Option.map Clause.flat) = (t.clause? b under).map (Option.map Clause.flat)

namespace Regrouped

/-- Trees that make the same changes, with conditions of one flat form, differ in grouping only. -/
theorem of_changes {s t : Spec} (hchanges : ∀ under, s.changes under = t.changes under)
    (hconditions : ∀ b under,
      (s.clause? b under).map (Option.map Clause.flat) = (t.clause? b under).map (Option.map Clause.flat)) :
    s.Regrouped t where
  modifies under b c h := by
    rw [run_modify, run_modify, hchanges]
    exact Change.applyAll_regrouped h _
  conditions := hconditions

theorem refl (s : Spec) : s.Regrouped s := of_changes (fun _ => rfl) fun _ _ => rfl

variable {s t : Spec} (h : s.Regrouped t)

include h

theorem modifyAll (under : String) (before after : List Spec) (b c : Builder)
    (hbc : b.Alike Statement.Regrouped c) :
    RunsAlike (Builder.Alike Statement.Regrouped) (runFrom b (Spec.modifyAll under (before ++ s :: after)))
      (runFrom c (Spec.modifyAll under (before ++ t :: after))) := by
  induction before generalizing b c with
  | nil =>
      refine RunsAlike.bind (h.modifies under b c hbc) ?_
      intro _ b c hbc
      exact (refl (.conj after)).modifies under b c hbc
  | cons d rest ih =>
      refine RunsAlike.bind ((refl d).modifies under b c hbc) ?_
      intro _ b c hbc
      exact ih b c hbc

/-- Conditions of one flat form among others have one flat form together. -/
theorem clauses (b : Builder) (under : String) (before after : List Spec) :
    (Spec.clauses b under (before ++ s :: after)).map (List.map Clause.flat) =
      (Spec.clauses b under (before ++ t :: after)).map (List.map Clause.flat) := by
  rw [clauses_append, clauses_append, Spec.clauses, Spec.clauses]
  cases Spec.clauses b under before with
  | error f => rfl
  | ok xs =>
      rcases conditions_alike (h.conditions b under) with ⟨fault, hs, ht⟩ | ⟨c, d, hs, ht, hcd⟩
      · rw [hs, ht]
      · rw [hs, ht]
        cases Spec.clauses b under after with
        | error f => rfl
        | ok ys =>
            have htoList : c.toList.map Clause.flat = d.toList.map Clause.flat := by
              rw [← Option.toList_map, ← Option.toList_map, hcd]
            simp only [bind, Except.bind, Except.map, List.map_append, htoList]

/-- A node of children, one of which is regrouped. -/
theorem joined {node : List Spec → Spec} {join : List Clause → Clause} (hnode : Connective node join)
    (before after : List Spec) : (node (before ++ s :: after)).Regrouped (node (before ++ t :: after)) where
  modifies under b c hbc := by
    rw [hnode.modify, hnode.modify]
    exact h.modifyAll under before after b c hbc
  conditions b under := by
    have hclauses := h.clauses b under before after
    rw [hnode.clause, hnode.clause]
    generalize Spec.clauses b under (before ++ s :: after) = x at hclauses ⊢
    generalize Spec.clauses b under (before ++ t :: after) = y at hclauses ⊢
    cases x with
    | error f =>
        cases y with
        | error f' =>
            cases hclauses
            rfl
        | ok ds => cases hclauses
    | ok cs =>
        cases y with
        | error f => cases hclauses
        | ok ds => exact congrArg Except.ok (hnode.flat_combine_congr (Except.ok.inj hclauses))

/-- A condition that is added to alike builders leaves them alike. -/
theorem addClause {add : Statement → Clause → Statement} (hadd : Statement.AddsFlat add) (under : String)
    (b c : Builder) (hbc : b.Alike Statement.Regrouped c) :
    RunsAlike (Builder.Alike Statement.Regrouped) (runFrom b (addClause add under s))
      (runFrom c (Spec.addClause add under t)) := by
  rw [runFrom_addClause, runFrom_addClause]
  have hread : t.clause? c under = t.clause? b under := by
    rw [hbc.rest]
    exact clause?_changed b (fun _ => c.statement) under t
  rw [hread]
  rcases conditions_alike (h.conditions b under) with ⟨fault, hs, ht⟩ | ⟨x, y, hs, ht, hxy⟩
  · rw [hs, ht]
    exact ⟨rfl, hbc⟩
  · rw [hs, ht]
    refine ⟨rfl, ?_⟩
    show (b.changed fun st => st.addOptional add x).Alike _ (c.changed fun st => st.addOptional add y)
    exact hbc.changed (hbc.statement.addOptional hadd hxy)

/-- **Regrouped specifications are applied alike.** -/
theorem run_apply (under : String) (b : Builder) :
    RunsAlike (Builder.Alike Statement.Regrouped) (runFrom b (s.apply under)) (runFrom b (t.apply under)) := by
  refine RunsAlike.bind (h.modifies under b b (b.alike_refl Statement.regrouped_refl)) ?_
  intro _ b c hbc
  exact h.addClause Statement.addsFlat_addCondition under b c hbc

end Regrouped

/-! ## Nodes -/

/-- **Every node takes regrouping over from a child.** -/
theorem Regrouped.congruence : Congruence Regrouped where
  conj h before after := h.joined connective_conj before after
  disj h before after := h.joined connective_disj before after
  neg {s t} h := by
    refine ⟨h.modifies, ?_⟩
    intro b under
    rw [clause?, clause?]
    rcases conditions_alike (h.conditions b under) with ⟨fault, hs, ht⟩ | ⟨c, d, hs, ht, hcd⟩
    · rw [hs, ht]
    · -- Negation turns conjunctions into disjunctions, but takes the flat form along.
      have hnegate : ∀ o : Option Clause,
          (o.map Clause.negate).map Clause.flat = (o.map Clause.flat).map Clause.negate := by
        intro o
        rw [Option.map_map, Option.map_map]
        exact congrArg (Option.map · o) (funext Clause.flat_negate)
      rw [hs, ht]
      show Except.ok ((c.map Clause.negate).map Clause.flat) = Except.ok ((d.map Clause.negate).map Clause.flat)
      rw [hnegate, hnegate, hcd]
  having h := by
    -- The condition on groups is added by the changes, and there is none on rows.
    refine ⟨?_, fun _ _ => rfl⟩
    intro under b c hbc
    refine RunsAlike.bind (h.modifies under b c hbc) ?_
    intro _ b c hbc
    exact h.addClause Statement.addsFlat_addGroupCondition under b c hbc
  countOf h := by
    refine ⟨?_, h.conditions⟩
    intro under b c hbc
    refine RunsAlike.bind ⟨rfl, hbc.changed_both fun _ => rfl⟩ ?_
    intro _ b c hbc
    exact h.modifies under b c hbc
  named h typeName a :=
    ⟨fun under => h.modifies (effectiveAlias a under), fun b under => h.conditions b (effectiveAlias a under)⟩

end Spec

/-! ## Padding -/

/-- Ways of saying nothing. -/
inductive Padding where
  | emptyConj
  | emptyDisj
  | idle
  /-- A reusable specification that does not say what it stands for. -/
  | base (under : Option String)
  /-- A caller's own one that stands for nothing. -/
  | named (typeName : String) (under : Option String)

namespace Padding

/-- The specification that says nothing in this way. -/
def spec : Padding → Spec
  | .emptyConj => .conj []
  | .emptyDisj => .disj []
  | .idle => .idle
  | .base a => .base a
  | .named t a => Spec.standingFor t a (.foreign .null)

variable (p : Padding)

theorem changes_spec (under : String) : p.spec.changes under = [] := by
  cases p <;> rfl

theorem clause?_spec (b : Builder) (under : String) : p.spec.clause? b under = .ok none := by
  cases p <;> rfl

end Padding

/-! ## Regrouping -/

namespace Spec.Connective

variable {node : List Spec → Spec} {join : List Clause → Clause} (hnode : Connective node join)

include hnode

/-- **A node among the children of a node of its kind** can give its place to its own children. -/
theorem regrouped_nested (xs ys zs : List Spec) : (node (xs ++ node ys :: zs)).Regrouped (node (xs ++ ys ++ zs)) := by
  apply Regrouped.of_changes
  · intro under
    simp only [hnode.changes, changesAll_append, changesAll, List.append_assoc]
  · intro b under
    simp only [hnode.clause, clauses_append, clauses]
    cases clauses b under xs with
    | error f => rfl
    | ok cs =>
        cases clauses b under ys with
        | error f => rfl
        | ok ds =>
            cases clauses b under zs with
            | error f => rfl
            | ok es =>
                have hnested := hnode.flat_combine_nested cs ds es
                rw [List.append_assoc] at hnested
                exact congrArg Except.ok hnested

/-- A single child stands for itself. -/
theorem regrouped_single (s : Spec) : (node [s]).Regrouped s := by
  apply Regrouped.of_changes
  · intro under
    rw [hnode.changes]
    exact List.append_nil _
  · intro b under
    rw [hnode.clause, clauses]
    rcases s.clause? b under with f | _ | c <;> rfl

/-- What says nothing can be left out. -/
theorem regrouped_padded (p : Padding) (xs zs : List Spec) :
    (node (xs ++ p.spec :: zs)).Regrouped (node (xs ++ zs)) := by
  apply Regrouped.of_changes
  · intro under
    simp only [hnode.changes, changesAll_append, changesAll, p.changes_spec, List.nil_append]
  · intro b under
    have hclauses : clauses b under (p.spec :: zs) = clauses b under zs := by
      rw [clauses, p.clause?_spec]
      cases clauses b under zs <;> rfl
    simp only [hnode.clause, clauses_append, hclauses]

end Spec.Connective
end Criteria
