import Criteria.Proofs.Query.Fetching
import Criteria.Proofs.Spec.Place

/-!
# Something else in the place of a specification

A specification is expected as the argument of a repository, as a child of a node, and as what a reusable
specification stands for. The nodes check their children, so that something else is refused when they are
made. A repository and a reusable specification do not check: there something else is ignored, and what is
built and found is the same as with nothing in its place (`foreign_refused_or_ignored`).
-/

namespace Criteria

/-! ## Refusal -/

/-- Something else among the children is refused, if nothing before it is. -/
theorem children_of_foreign (parent : String) (before : List Operand) (v : Value) (after : List Operand) :
    ∃ found, Spec.children parent (before ++ .foreign v :: after) =
      .error (.badChild parent .filterOrModifier found) := by
  induction before with
  | nil => exact ⟨v.typeName, rfl⟩
  | cons o rest ih =>
      cases o with
      | foreign w => exact ⟨w.typeName, rfl⟩
      | spec s =>
          obtain ⟨found, hfound⟩ := ih
          refine ⟨found, ?_⟩
          rw [List.cons_append, Spec.children, hfound]
          rfl

/-- A node that checks refuses whatever is no specification, and no child at all only where it needs one. -/
theorem Frame.fill_foreign {f : Frame} {v : Value} (hf : f.checks = true) (hv : v ≠ .null) :
    ∃ fault, f.fill (.foreign v) = .error fault ∧ fault.kind = .invalidArgument := by
  cases f with
  | conj before after =>
      obtain ⟨found, hfound⟩ := children_of_foreign "AndX" before v after
      refine ⟨.badChild "AndX" .filterOrModifier found, ?_, rfl⟩
      rw [fill, Spec.conj?, hfound]
      rfl
  | disj before after =>
      obtain ⟨found, hfound⟩ := children_of_foreign "OrX" before v after
      refine ⟨.badChild "OrX" .filterOrModifier found, ?_, rfl⟩
      rw [fill, Spec.disj?, hfound]
      rfl
  | neg => exact ⟨.badChild "Not" .filter v.typeName, rfl, rfl⟩
  | having => exact ⟨.badChild "Having" .filter v.typeName, rfl, rfl⟩
  | countOf =>
      refine ⟨.badChild "CountOf" .filterOrModifier v.typeName, ?_, rfl⟩
      cases v with
      | null => exact absurd rfl hv
      | _ => rfl
  | named t a => cases hf

/-! ## What is not checked is ignored -/

namespace Repository

variable (repo : Repository)

theorem builder_alike {s t : Spec} (h : s.SameEffect t) (under : Option String) :
    repo.builder (.spec s) under = repo.builder (.spec t) under := by
  simp only [builder, Operand.apply, h.apply]

/-- The query for a specification depends on its builder alone, and so does what is found. -/
theorem query_of_builder_eq {o o' : Operand} (h : repo.builder o none = repo.builder o' none)
    (m : Option Modifier) : repo.query o m = repo.query o' m := by
  simp only [query, h]

theorem find_of_builder_eq {o o' : Operand} (h : repo.builder o none = repo.builder o' none)
    (fetch : Fetch) (m : Option Modifier) (s : Session) :
    (runFrom s (repo.find fetch o m)).1 = (runFrom s (repo.find fetch o' m)).1 := by
  simp only [find_outcome, query_of_builder_eq repo h]

/-- At a place that is not checked, nothing that is built depends on what else stands there. -/
theorem fill_of_unchecked {place : Place} (hplace : place.checks = false) (v w : Value) :
    (∃ f, place.fill (.foreign v) = .error f ∧ place.fill (.foreign w) = .error f) ∨
      ∃ o o', place.fill (.foreign v) = .ok o ∧ place.fill (.foreign w) = .ok o' ∧
        ∀ under, repo.builder o under = repo.builder o' under := by
  match place, hplace with
  | [], _ => exact .inr ⟨_, _, rfl, rfl, fun _ => rfl⟩
  | .named typeName a :: rest, _ =>
      -- The reusable specification is the first node around the place, and it never looks at what it is given.
      have hnamed : (Spec.namedForeign typeName a v).SameEffect (.namedForeign typeName a w) :=
        ⟨fun _ => rfl, fun _ _ => rfl⟩
      have hmade := Place.fill_congr Spec.SameEffect.congruence rest hnamed
        fun _ => Spec.admittedAlike_of_isFilter rfl rfl
      rcases hmade with ⟨f, hv, hw⟩ | ⟨s, t, hv, hw, halike⟩
      · exact .inl ⟨f, hv, hw⟩
      · exact .inr ⟨.spec s, .spec t, hv, hw, builder_alike repo halike⟩

/-- **Something else is refused or ignored.** Where a node checks its child, whatever is no specification is
refused as an invalid argument. Where nothing checks it, as the argument of a repository and as what a
reusable specification stands for, it is ignored: all that is built and found is as if there were none. -/
theorem foreign_refused_or_ignored (place : Place) (v : Value) (hv : v ≠ .null) :
    (place.checks = true →
      ∃ f, place.fill (.foreign v) = .error f ∧ f.kind = .invalidArgument) ∧
    (place.checks = false →
      (∀ under, (place.fill (.foreign v)).map (repo.builder · under) =
        (place.fill (.foreign .null)).map (repo.builder · under)) ∧
      (∀ m, (place.fill (.foreign v)).map (repo.query · m) =
        (place.fill (.foreign .null)).map (repo.query · m)) ∧
      ∀ fetch m s, (place.fill (.foreign v)).map (fun o => (runFrom s (repo.find fetch o m)).1) =
        (place.fill (.foreign .null)).map (fun o => (runFrom s (repo.find fetch o m)).1)) := by
  constructor
  · intro hplace
    match place, hplace with
    | f :: rest, hf =>
        obtain ⟨fault, hfault, hkind⟩ := Frame.fill_foreign hf hv
        refine ⟨fault, ?_, hkind⟩
        rw [Place.fill, hfault]
        rfl
  · intro hplace
    -- The frames further out see the same child either way, and in the middle nothing looks at the value.
    rcases fill_of_unchecked repo hplace v .null with ⟨f, hv, hnull⟩ | ⟨o, o', hv, hnull, hbuilder⟩
    · rw [hv, hnull]
      exact ⟨fun _ => rfl, fun _ => rfl, fun _ _ _ => rfl⟩
    · rw [hv, hnull]
      refine ⟨fun under => congrArg Except.ok (hbuilder under), fun m => ?_, fun fetch m s => ?_⟩
      · exact congrArg Except.ok (query_of_builder_eq repo (hbuilder none) m)
      · exact congrArg Except.ok (find_of_builder_eq repo (hbuilder none) fetch m s)

/-- A number is refused by a negation and ignored by a repository, which then finds everything. -/
theorem number_refused_or_ignored :
    (∃ f, Place.fill (.foreign (.int 5)) [.neg] = .error f ∧ f.kind = .invalidArgument) ∧
    (runFrom ({ database := .sample } : Session)
        (({ entity := .user } : Repository).find .all (.foreign (.int 5)) none)).1 =
      (runFrom ({ database := .sample } : Session)
        (({ entity := .user } : Repository).find .all (.foreign .null) none)).1 := by
  have hfive : Value.int 5 ≠ .null := by simp
  constructor
  · exact (foreign_refused_or_ignored { entity := .user } [.neg] (.int 5) hfive).1 rfl
  · obtain ⟨-, -, hfound⟩ := (foreign_refused_or_ignored { entity := .user } [] (.int 5) hfive).2 rfl
    exact Except.ok.inj (hfound .all none { database := .sample })

end Repository
end Criteria
