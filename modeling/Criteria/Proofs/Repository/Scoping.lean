import Criteria.Proofs.Spec.Scoping

/-!
# Which specifications can be built

If the values of a specification are such as operators take and the fields that it reads are columns or no
attributes at all, then whether it can be built is a question of its aliases alone, and the scoping check
answers it: see `builder_decided`.
-/

namespace Criteria

/-- A check of visits decides what comes out of a builder. -/
structure Bindings.Decides (env : Bindings) (vs : List Visit) (outcome : Except Fault Unit × Builder) :
    Prop where
  /-- An argument is refused exactly if the check fails. -/
  refused_iff : (∃ f, outcome.1 = .error f ∧ f.kind = .invalidArgument) ↔
    ∃ v reached f, env.FirstFailure vs v reached f
  /-- The first visit that finds something wrong says what is refused, and the builder stays as far as the
  visits before it got. -/
  first : ∀ v reached f, env.FirstFailure vs v reached f →
    outcome.1 = .error f ∧ outcome.2.bindings = reached
  /-- If none finds something wrong, the builder is made, with the bindings that all visits lead to. -/
  built : (¬∃ v reached f, env.FirstFailure vs v reached f) →
    ∃ final, env.check vs = (.ok (), final) ∧ outcome.1 = .ok () ∧ outcome.2.bindings = final

/-- What fails as visits do and binds what they bind is decided by them. -/
theorem Bindings.decides_of_check {env : Bindings} {vs : List Visit}
    {outcome : Except Fault Unit × Builder}
    (h : env.check vs = (outcome.1, outcome.2.bindings)) : env.Decides vs outcome := by
  -- Visits fail first in one place, and so does whatever fails as they do.
  have hfailure {v : Visit} {reached : Bindings} {f : Fault} (hv : env.FirstFailure vs v reached f) :
      outcome.1 = .error f ∧ outcome.2.bindings = reached := by
    have hcheck := check_eq_error.mpr ⟨v, hv⟩
    rw [h] at hcheck
    exact Prod.mk.inj hcheck
  refine ⟨⟨?_, ?_⟩, fun v reached f => hfailure, ?_⟩
  · rintro ⟨f, hf, -⟩
    rw [hf] at h
    obtain ⟨v, hv⟩ := check_eq_error.mp h
    exact ⟨v, _, f, hv⟩
  · rintro ⟨v, reached, f, hv⟩
    obtain ⟨before, after, -, -, hvisit⟩ := id hv
    exact ⟨f, (hfailure hv).1, kind_of_visit hvisit⟩
  · intro hnone
    cases houtcome : outcome.1 with
    | error f =>
        rw [houtcome] at h
        obtain ⟨v, hv⟩ := check_eq_error.mp h
        exact absurd ⟨v, _, f, hv⟩ hnone
    | ok u =>
        rw [houtcome] at h
        exact ⟨_, h, rfl, rfl⟩

namespace Repository

/-- **Exact scoping.** A specification whose values operators take, and whose reads are of columns or of no
attributes, is refused exactly if a visit in its order finds something wrong, with what the first such visit
finds; otherwise a builder is made that has exactly the aliases that the visits bind. -/
theorem builder_decided (repo : Repository) (under : Option String) (s : Spec)
    (hvalues : s.valuesTaken)
    (hcolumns : Bindings.readsColumns [(effectiveAlias under repo.rootAlias, repo.entity)]
      (s.order (effectiveAlias under repo.rootAlias))) :
    Bindings.Decides [(effectiveAlias under repo.rootAlias, repo.entity)]
      (s.order (effectiveAlias under repo.rootAlias)) (repo.builder (.spec s) under) :=
  Bindings.decides_of_check (Spec.check_order
    (Builder.ofEntity repo.entity (effectiveAlias under repo.rootAlias)) _ s hvalues hcolumns)

/-- A condition on rows may use an alias that is joined behind it, a condition on groups may not. -/
theorem group_condition_before_join :
    (Repository.builder { entity := .user } (.spec (.conj
        [.filter (some "p") "title" (.compare false .gt (.str "B")),
          .join .join none "posts" "p"])) none).2.bindings = [("e", .user), ("p", .post)] ∧
      ∃ f, (Repository.builder { entity := .user } (.spec (.conj
        [.having (.filter (some "p") "title" (.compare false .gt (.str "B"))),
          .join .join none "posts" "p"])) none).1 = .error f ∧ f.kind = .invalidArgument := by
  have hrows := builder_decided { entity := .user } none
    (.conj [.filter (some "p") "title" (.compare false .gt (.str "B")), .join .join none "posts" "p"])
    (by decide) (by decide)
  have hgroups := builder_decided { entity := .user } none
    (.conj [.having (.filter (some "p") "title" (.compare false .gt (.str "B"))),
      .join .join none "posts" "p"]) (by decide) (by decide)
  constructor
  · obtain ⟨final, hfinal, -, hbindings⟩ := hrows.built fun ⟨v, reached, f, hv⟩ => by
      cases Bindings.check_eq_error.mpr ⟨v, hv⟩
    rw [hbindings]
    cases hfinal
    rfl
  · exact hgroups.refused_iff.mpr
      ⟨.read "p" "title", [("e", .user)], _, [], [.join "e" "posts" "p"], rfl, rfl, rfl⟩

end Repository
end Criteria
