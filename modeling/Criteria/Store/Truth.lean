/-!
# Three-valued truth

The truth of a condition on a row: a condition that meets a missing value is neither true nor
false. Conjunction is the minimum and disjunction the maximum of the order `no < unknown < yes`,
and negation reverses that order.
-/

namespace Criteria

inductive Truth where
  | no
  | unknown
  | yes
  deriving DecidableEq, Repr, Inhabited

namespace Truth

def ofBool (b : Bool) : Truth := if b then .yes else .no

/-- The minimum. -/
def and : Truth → Truth → Truth
  | .no, _ | _, .no => .no
  | .yes, t | t, .yes => t
  | .unknown, .unknown => .unknown

/-- The maximum. -/
def or : Truth → Truth → Truth
  | .yes, _ | _, .yes => .yes
  | .no, t | t, .no => t
  | .unknown, .unknown => .unknown

def not : Truth → Truth
  | .no => .yes
  | .unknown => .unknown
  | .yes => .no

/-- The conjunction of a list; an empty one is true. -/
def all (ts : List Truth) : Truth := ts.foldr and .yes

/-- The disjunction of a list; an empty one is false. -/
def any (ts : List Truth) : Truth := ts.foldr or .no

/-- Whether a row is kept: only if the condition is true of it. -/
def holds : Truth → Bool
  | .yes => true
  | _ => false

@[simp] theorem not_not (t : Truth) : t.not.not = t := by cases t <;> rfl

theorem not_and (s t : Truth) : (s.and t).not = s.not.or t.not := by cases s <;> cases t <;> rfl

theorem not_or (s t : Truth) : (s.or t).not = s.not.and t.not := by cases s <;> cases t <;> rfl

theorem and_assoc (s t u : Truth) : (s.and t).and u = s.and (t.and u) := by
  cases s <;> cases t <;> cases u <;> rfl

theorem or_assoc (s t u : Truth) : (s.or t).or u = s.or (t.or u) := by
  cases s <;> cases t <;> cases u <;> rfl

end Truth
end Criteria
