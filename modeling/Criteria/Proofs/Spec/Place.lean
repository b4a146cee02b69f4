import Criteria.Proofs.Running
import Criteria.Spec.Make

/-!
# Places in a specification

A specification stands at a place of a larger one, within nodes that may refuse it when they are made. A relation
that every kind of node takes over from a child (`Spec.Congruence`) holds of the whole as soon as it holds at the
place: filled with related specifications, a place refuses both alike or gives related ones (`Place.fill_congr`).
-/

namespace Criteria

/-! ## Places -/

/-- A node with a place for one child, among others whatever they are. -/
inductive Frame where
  | conj (before after : List Operand)
  | disj (before after : List Operand)
  | neg
  | having
  | countOf
  /-- A reusable specification, whose tree stands at the place. -/
  | named (typeName : String) (under : Option String)

namespace Frame

/-- The node with its place filled, unless it refuses what it is filled with. -/
def fill (o : Operand) : Frame → Except Fault Operand
  | .conj before after => (Spec.conj? (before ++ o :: after)).map .spec
  | .disj before after => (Spec.disj? (before ++ o :: after)).map .spec
  | .neg => (Spec.neg? o).map .spec
  | .having => (Spec.having? o).map .spec
  | .countOf => (Spec.countOf? o).map .spec
  | .named t a => .ok (.spec (Spec.standingFor t a o))

/-- Whether the node checks what it is filled with. -/
def checks : Frame → Bool
  | .named _ _ => false
  | _ => true

/-- Whether only a filter can stand at the place. -/
def needsFilter : Frame → Bool
  | .neg | .having => true
  | _ => false

end Frame

/-- A place at any depth of a specification: the nodes around it, innermost first. -/
abbrev Place := List Frame

namespace Place

/-- The specification with the place filled, made from the inside out. -/
def fill (o : Operand) : Place → Except Fault Operand
  | [] => .ok o
  | f :: rest => (f.fill o).bind fun filled => Place.fill filled rest

/-- Whether the node right around the place checks what it is filled with. -/
def checks : Place → Bool
  | [] => false
  | f :: _ => f.checks

/-- Whether only a filter can stand at the place. -/
def needsFilter : Place → Bool
  | [] => false
  | f :: _ => f.needsFilter

end Place

/-! ## Related outcomes -/

/-- Whether two outcomes are the same fault, or related specifications. -/
def MadeAlike (R : Spec → Spec → Prop) (x y : Except Fault Operand) : Prop :=
  (∃ f, x = .error f ∧ y = .error f) ∨
    ∃ s t : Spec, x = .ok (.spec s) ∧ y = .ok (.spec t) ∧ R s t

namespace MadeAlike

variable {R Q : Spec → Spec → Prop} {x y : Except Fault Operand}

theorem refused (f : Fault) : MadeAlike R (.error f) (.error f) := .inl ⟨f, rfl, rfl⟩

theorem made {s t : Spec} (h : R s t) : MadeAlike R (.ok (.spec s)) (.ok (.spec t)) :=
  .inr ⟨s, t, rfl, rfl, h⟩

theorem mono (hRQ : ∀ s t, R s t → Q s t) (h : MadeAlike R x y) : MadeAlike Q x y := by
  rcases h with hrefused | ⟨s, t, hs, ht, hst⟩
  · exact .inl hrefused
  · exact .inr ⟨s, t, hs, ht, hRQ s t hst⟩

end MadeAlike

/-! ## Relations that nodes take over -/

namespace Spec

/-- Specifications that a node which needs a filter takes or refuses alike. -/
structure AdmittedAlike (s t : Spec) : Prop where
  filter : s.isFilter = t.isFilter
  name : s.isFilter = false → s.typeName = t.typeName

theorem admittedAlike_of_isFilter {s t : Spec} (hs : s.isFilter = true) (ht : t.isFilter = true) :
    s.AdmittedAlike t where
  filter := hs.trans ht.symm
  name hnot := by
    rw [hs] at hnot
    cases hnot

/-- A relation that a node takes over from its child, whatever stands beside it. -/
structure Congruence (R : Spec → Spec → Prop) : Prop where
  conj {s t : Spec} (h : R s t) (before after : List Spec) :
    R (.conj (before ++ s :: after)) (.conj (before ++ t :: after))
  disj {s t : Spec} (h : R s t) (before after : List Spec) :
    R (.disj (before ++ s :: after)) (.disj (before ++ t :: after))
  neg {s t : Spec} (h : R s t) : R (.neg s) (.neg t)
  having {s t : Spec} (h : R s t) : R (.having s) (.having t)
  countOf {s t : Spec} (h : R s t) : R (.countOf (some s)) (.countOf (some t))
  named {s t : Spec} (h : R s t) (typeName : String) (under : Option String) :
    R (.named typeName under s) (.named typeName under t)

end Spec

/-- Children among others are all refused alike, or stand in the same place. -/
theorem children_alike (parent : String) (before : List Operand) (s t : Spec) (after : List Operand) :
    (∃ f, Spec.children parent (before ++ .spec s :: after) = .error f ∧
      Spec.children parent (before ++ .spec t :: after) = .error f) ∨
    ∃ xs ys, Spec.children parent (before ++ .spec s :: after) = .ok (xs ++ s :: ys) ∧
      Spec.children parent (before ++ .spec t :: after) = .ok (xs ++ t :: ys) := by
  induction before with
  | nil =>
      simp only [List.nil_append, Spec.children]
      cases Spec.children parent after with
      | error f => exact .inl ⟨f, rfl, rfl⟩
      | ok ys => exact .inr ⟨[], ys, rfl, rfl⟩
  | cons o rest ih =>
      cases o with
      | foreign w => exact .inl ⟨_, rfl, rfl⟩
      | spec c =>
          simp only [List.cons_append, Spec.children]
          rcases ih with ⟨f, hs, ht⟩ | ⟨xs, ys, hs, ht⟩
          · rw [hs, ht]
            exact .inl ⟨f, rfl, rfl⟩
          · rw [hs, ht]
            exact .inr ⟨c :: xs, ys, rfl, rfl⟩

/-- A child that has to be a filter is refused alike, or taken as it is. -/
theorem filterChild_alike (parent : String) {s t : Spec} (h : s.AdmittedAlike t) :
    (∃ f, Spec.filterChild parent (.spec s) = .error f ∧ Spec.filterChild parent (.spec t) = .error f) ∨
      Spec.filterChild parent (.spec s) = .ok s ∧ Spec.filterChild parent (.spec t) = .ok t := by
  simp only [Spec.filterChild, ← h.filter]
  cases hfilter : s.isFilter with
  | true => exact .inr ⟨rfl, rfl⟩
  | false =>
      rw [h.name hfilter]
      exact .inl ⟨_, rfl, rfl⟩

section Congruence

variable {R : Spec → Spec → Prop} (hR : Spec.Congruence R)

include hR

/-- Nodes filled with related specifications are related, and are themselves admitted alike. -/
theorem Frame.fill_congr (f : Frame) {s t : Spec} (h : R s t)
    (hadmitted : f.needsFilter = true → s.AdmittedAlike t) :
    MadeAlike (fun s t => R s t ∧ s.AdmittedAlike t) (f.fill (.spec s)) (f.fill (.spec t)) := by
  cases f with
  | conj before after =>
      rcases children_alike "AndX" before s t after with ⟨f, hs, ht⟩ | ⟨xs, ys, hs, ht⟩
      · rw [fill, fill, Spec.conj?, Spec.conj?, hs, ht]
        exact .refused f
      · rw [fill, fill, Spec.conj?, Spec.conj?, hs, ht]
        exact .made ⟨hR.conj h xs ys, rfl, fun _ => rfl⟩
  | disj before after =>
      rcases children_alike "OrX" before s t after with ⟨f, hs, ht⟩ | ⟨xs, ys, hs, ht⟩
      · rw [fill, fill, Spec.disj?, Spec.disj?, hs, ht]
        exact .refused f
      · rw [fill, fill, Spec.disj?, Spec.disj?, hs, ht]
        exact .made ⟨hR.disj h xs ys, rfl, fun _ => rfl⟩
  -- A node that needs a filter refuses both or takes both, as they are admitted alike.
  | neg =>
      rcases filterChild_alike "Not" (hadmitted rfl) with ⟨f, hs, ht⟩ | ⟨hs, ht⟩
      · rw [fill, fill, Spec.neg?, Spec.neg?, hs, ht]
        exact .refused f
      · rw [fill, fill, Spec.neg?, Spec.neg?, hs, ht]
        exact .made ⟨hR.neg h, rfl, fun _ => rfl⟩
  | having =>
      rcases filterChild_alike "Having" (hadmitted rfl) with ⟨f, hs, ht⟩ | ⟨hs, ht⟩
      · rw [fill, fill, Spec.having?, Spec.having?, hs, ht]
        exact .refused f
      · rw [fill, fill, Spec.having?, Spec.having?, hs, ht]
        exact .made ⟨hR.having h, rfl, fun _ => rfl⟩
  -- The others take any specification.
  | countOf => exact .made ⟨hR.countOf h, rfl, fun _ => rfl⟩
  | named typeName under => exact .made ⟨hR.named h typeName under, rfl, fun _ => rfl⟩

/-- **A relation that nodes take over** holds of the whole if it holds at a place that takes both. -/
theorem Place.fill_congr (place : Place) {s t : Spec} (h : R s t)
    (hadmitted : place.needsFilter = true → s.AdmittedAlike t) :
    MadeAlike R (place.fill (.spec s)) (place.fill (.spec t)) := by
  induction place generalizing s t with
  | nil => exact .made h
  | cons f rest ih =>
      rw [Place.fill, Place.fill]
      -- A fault of the innermost node ends both, and else the rest is filled with related nodes.
      rcases f.fill_congr hR h hadmitted with ⟨fault, hs, ht⟩ | ⟨s', t', hs, ht, hfilled, hadmitted'⟩
      · rw [hs, ht]
        exact .refused fault
      · rw [hs, ht]
        exact ih hfilled fun _ => hadmitted'

end Congruence

/-! ## Specifications of one effect -/

namespace Spec

/-- Specifications that make the same changes and build the same conditions, on every builder. -/
structure SameEffect (s t : Spec) : Prop where
  modify : ∀ under, s.modify under = t.modify under
  clause : ∀ b under, s.clause? b under = t.clause? b under

namespace SameEffect

variable {s t : Spec}

theorem apply (h : s.SameEffect t) (under : String) : s.apply under = t.apply under := by
  simp only [Spec.apply, addClause, h.modify, h.clause]

theorem modifyAll (h : s.SameEffect t) (under : String) (before after : List Spec) :
    Spec.modifyAll under (before ++ s :: after) = Spec.modifyAll under (before ++ t :: after) := by
  induction before with
  | nil => simp only [List.nil_append, Spec.modifyAll, h.modify]
  | cons c rest ih => simp only [List.cons_append, Spec.modifyAll, ih]

theorem clauses (h : s.SameEffect t) (b : Builder) (under : String) (before after : List Spec) :
    Spec.clauses b under (before ++ s :: after) = Spec.clauses b under (before ++ t :: after) := by
  induction before with
  | nil => simp only [List.nil_append, Spec.clauses, h.clause]
  | cons c rest ih => simp only [List.cons_append, Spec.clauses, ih]

/-- Every node has the effect of its child only. -/
theorem congruence : Congruence SameEffect where
  conj h before after :=
    ⟨fun under => by simp only [Spec.modify, h.modifyAll], fun b under => by simp only [Spec.clause?, h.clauses]⟩
  disj h before after :=
    ⟨fun under => by simp only [Spec.modify, h.modifyAll], fun b under => by simp only [Spec.clause?, h.clauses]⟩
  neg h :=
    ⟨fun under => by simp only [Spec.modify, h.modify], fun b under => by simp only [Spec.clause?, h.clause]⟩
  having h :=
    ⟨fun under => by simp only [Spec.modify, addClause, h.modify, h.clause], fun _ _ => rfl⟩
  countOf h :=
    ⟨fun under => by simp only [Spec.modify, h.modify], fun b under => by simp only [Spec.clause?, h.clause]⟩
  named h typeName a :=
    ⟨fun under => by simp only [Spec.modify, h.modify], fun b under => by simp only [Spec.clause?, h.clause]⟩

end SameEffect
end Spec
end Criteria
