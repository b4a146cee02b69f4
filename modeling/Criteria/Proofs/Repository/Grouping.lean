import Criteria.Proofs.Repository.Likeness
import Criteria.Proofs.Spec.Grouping

/-!
# Grouping does not show

How specifications are grouped with the connectives, by operators or by their constructors, does not show in what
is built from them, nor do children that say nothing (`Spec.grouping_does_not_show`). The statements have the same
text and parameters in both dialects, the aliases and events are the same, and so is the fault where there is one.
This is so at every place of a specification, in conditions of groups as well.
-/

namespace Criteria

/-- A query does not tell statements apart that differ in grouping only. -/
theorem Statement.likeness_regrouped : Likeness Regrouped where
  items {s t} h := by
    show s.flat.items = t.flat.items
    rw [h]
  run {s t} h db := by
    rw [← s.run_flat, ← t.run_flat, h]
  moments {s t} h := by
    rw [← s.moments_flat, ← t.moments_flat, h]
  onMoments {s t} h g k := by
    show (s.onMoments g k).flat = (t.onMoments g k).flat
    rw [flat_onMoments, flat_onMoments, h]

namespace Spec

/-- Specifications that build the same queries. -/
structure SameQuery (s t : Spec) : Prop where
  /-- Applied to a builder, both succeed or fail with the same fault. -/
  outcome : ∀ under b, (runFrom b (s.apply under)).1 = (runFrom b (t.apply under)).1
  /-- The builders they leave, also on failure, have the same root, aliases and events. -/
  builds : ∀ under b,
    let c := (runFrom b (s.apply under)).2
    let d := (runFrom b (t.apply under)).2
    d = { c with statement := d.statement }
  /-- Their statements have the same text and parameters. -/
  text : ∀ under b dialect,
    (runFrom b (s.apply under)).2.statement.sql dialect = (runFrom b (t.apply under)).2.statement.sql dialect
  /-- The same values are bound, in the same order. -/
  binds : ∀ under b,
    (runFrom b (s.apply under)).2.statement.boundParameters =
      (runFrom b (t.apply under)).2.statement.boundParameters
  /-- The database answers alike. -/
  answers : ∀ under b db,
    (runFrom b (s.apply under)).2.statement.run db = (runFrom b (t.apply under)).2.statement.run db
  /-- A repository reports the same while it builds a query, and finds the same by it. -/
  journal : ∀ (repo : Repository) m, (repo.query (.spec s) m).2 = (repo.query (.spec t) m).2
  finds : ∀ (repo : Repository) fetch m session,
    (runFrom session (repo.find fetch (.spec s) m)).1 = (runFrom session (repo.find fetch (.spec t) m)).1

theorem Regrouped.builder {s t : Spec} (h : s.Regrouped t) (repo : Repository) (under : Option String) :
    RunsAlike (Builder.Alike Statement.Regrouped) (repo.builder (.spec s) under) (repo.builder (.spec t) under) :=
  h.run_apply (effectiveAlias under repo.rootAlias) (Builder.ofEntity repo.entity _)

/-- Regrouped specifications build the same queries. -/
theorem Regrouped.sameQuery {s t : Spec} (h : s.Regrouped t) : s.SameQuery t where
  outcome under b := (h.run_apply under b).1
  builds under b := (h.run_apply under b).2.rest
  text under b dialect := by
    have hflat := (h.run_apply under b).2.statement
    rw [← Statement.sql_flat, hflat, Statement.sql_flat]
  binds under b := by
    have hflat := (h.run_apply under b).2.statement
    rw [← Statement.boundParameters_flat, hflat, Statement.boundParameters_flat]
  answers under b db := Statement.likeness_regrouped.run (h.run_apply under b).2.statement db
  journal repo m := (repo.query_alike Statement.likeness_regrouped (h.builder repo none) m).2
  finds repo := repo.find_alike Statement.likeness_regrouped (h.builder repo none)

/-- Two specifications are made, and at a place they are refused alike or build the same queries. -/
def SameAt (place : Place) (x y : Except Fault Operand) : Prop :=
  ∃ s t, x = .ok (.spec s) ∧ y = .ok (.spec t) ∧
    MadeAlike SameQuery (place.fill (.spec s)) (place.fill (.spec t))

theorem sameAt_of_regrouped {place : Place} {x y : Except Fault Operand} {s t : Spec} (h : s.Regrouped t)
    (hx : x = .ok (.spec s)) (hy : y = .ok (.spec t))
    (hadmitted : place.needsFilter = true → s.AdmittedAlike t) : SameAt place x y := by
  refine ⟨s, t, hx, hy, ?_⟩
  apply MadeAlike.mono (fun _ _ => Regrouped.sameQuery)
  exact place.fill_congr Regrouped.congruence h hadmitted

theorem children_map_spec (parent : String) (cs : List Spec) : children parent (cs.map .spec) = .ok cs := by
  induction cs with
  | nil => rfl
  | cons c rest ih =>
      rw [List.map_cons, children, ih]
      rfl

/-- An operator on two specifications and a constructor for any number, between which grouping does not show. -/
structure GroupsFreely (op : Operand → Operand → Except Fault Operand) (node? : List Operand → Except Fault Spec)
    (place : Place) : Prop where
  /-- Three joined from the right, and from the left. -/
  right : ∀ a b c : Spec, SameAt place (do op (.spec a) (← op (.spec b) (.spec c)))
    ((node? [.spec a, .spec b, .spec c]).map .spec)
  left : ∀ a b c : Spec, SameAt place (do op (← op (.spec a) (.spec b)) (.spec c))
    ((node? [.spec a, .spec b, .spec c]).map .spec)
  /-- A node of one specification builds what this one builds, wherever it can stand itself. -/
  single : ∀ a : Spec, (place.needsFilter = true → a.isFilter = true) →
    SameAt place ((node? [.spec a]).map .spec) (.ok (.spec a))
  /-- A child that says nothing can be put between the others anywhere. -/
  padded : ∀ (p : Padding) (xs zs : List Spec),
    SameAt place ((node? ((xs ++ p.spec :: zs).map .spec)).map .spec) ((node? ((xs ++ zs).map .spec)).map .spec)

/-- An operator and a constructor that both make nodes of one connective group freely. -/
theorem groupsFreely {node : List Spec → Spec} {join : List Clause → Clause} (hnode : Connective node join)
    {op : Operand → Operand → Except Fault Operand} {node? : List Operand → Except Fault Spec}
    (hop : ∀ s t : Spec, op (.spec s) (.spec t) = .ok (.spec (node [s, t])))
    (hmade : ∀ cs : List Spec, node? (cs.map .spec) = .ok (node cs)) (hfilter : ∀ cs, (node cs).isFilter = true)
    (place : Place) : GroupsFreely op node? place where
  right a b c := by
    apply sameAt_of_regrouped (hnode.regrouped_nested [a] [b, c] [])
    · rw [hop]
      exact hop a (node [b, c])
    · exact congrArg (Except.map Operand.spec) (hmade [a, b, c])
    · exact fun _ => admittedAlike_of_isFilter (hfilter _) (hfilter _)
  left a b c := by
    apply sameAt_of_regrouped (hnode.regrouped_nested [] [a, b] [c])
    · rw [hop]
      exact hop (node [a, b]) c
    · exact congrArg (Except.map Operand.spec) (hmade [a, b, c])
    · exact fun _ => admittedAlike_of_isFilter (hfilter _) (hfilter _)
  single a ha := by
    apply sameAt_of_regrouped (hnode.regrouped_single a)
    · exact congrArg (Except.map Operand.spec) (hmade [a])
    · rfl
    · exact fun hplace => admittedAlike_of_isFilter (hfilter _) (ha hplace)
  padded p xs zs := by
    apply sameAt_of_regrouped (hnode.regrouped_padded p xs zs)
    · rw [hmade]
      rfl
    · rw [hmade]
      rfl
    · exact fun _ => admittedAlike_of_isFilter (hfilter _) (hfilter _)

/-- **Grouping does not show.** At every place of a tree, three specifications joined by one operator, from the left
or from the right, build what the connective of the three builds; a connective of one builds what this one builds;
and children that say nothing can be put anywhere. -/
theorem grouping_does_not_show (place : Place) : GroupsFreely andOp conj? place ∧ GroupsFreely orOp disj? place := by
  constructor
  · apply groupsFreely connective_conj (fun _ _ => rfl) ?_ (fun _ => rfl)
    intro cs
    rw [conj?, children_map_spec]
    rfl
  · apply groupsFreely connective_disj (fun _ _ => rfl) ?_ (fun _ => rfl)
    intro cs
    rw [disj?, children_map_spec]
    rfl

/-- A filter can be wrapped within a negation. -/
theorem wrapped_filter_negated :
    (Frame.neg.needsFilter = true → (Spec.filter none "name" (.isNull false)).isFilter = true) ∧
      SameAt [.neg] ((conj? [.spec (.filter none "name" (.isNull false))]).map .spec)
        (.ok (.spec (.filter none "name" (.isNull false)))) := by
  refine ⟨fun _ => rfl, ?_⟩
  exact (grouping_does_not_show [.neg]).1.single (.filter none "name" (.isNull false)) fun _ => rfl

end Spec
end Criteria
