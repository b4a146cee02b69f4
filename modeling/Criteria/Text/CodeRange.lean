/-!
# Ranges of code points

Character classes of the Unicode standard are lists of code-point ranges, in ascending order. A
class is a table in a module named for the property; this one holds how tables are asked.
-/

namespace Criteria.Text

def inRanges (ranges : List (Nat × Nat)) (code : Nat) : Bool :=
  ranges.any fun r => r.1 ≤ code && code ≤ r.2

end Criteria.Text
