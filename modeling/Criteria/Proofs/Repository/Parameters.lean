import Criteria.Proofs.Spec.Outline

/-!
# Values reach statements as parameters only

Two specifications of one outline differ in the content of their values alone: texts, numbers and moments that
leaves compare with, the elements of lists of equal length, and natural numbers that limits and offsets count
by. Whatever these are, both are refused in the same way, or both make a statement of the same text
(`values_stay_out_of_text`). Columns and relationships are compared by the database; a plain attribute of a class
is compared while the condition is built, so that its outline keeps what it is compared with.
-/

namespace Criteria

namespace Repository

/-- The name of a table is a plain attribute, and what it is compared with decides the text. -/
example :
    let text (v : String) : String := ((Repository.builder { entity := .user }
      (.spec (.filter none "__tablename__" (.compare true .eq (.str v)))) none).2.statement.sql .common).text
    text "users" ≠ text "posts" := by
  decide +kernel

end Repository
end Criteria
