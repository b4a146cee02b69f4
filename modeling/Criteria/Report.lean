import Criteria.Value

/-!
# Reports

A report is a fault put into a form for callers: a sort, a description, a code for programs to compare
and data about the circumstances. Each sort has a code of its own, which a report carries unless it is
given another one.
-/

namespace Criteria

/-- The sorts of reports. All are faults of the library; an unusable argument is also a fault of
type. -/
inductive ReportSort where
  | general
  /-- A specification or modifier was given something it cannot use. -/
  | invalidArgument
  /-- One result was expected and there is none. -/
  | noResult
  /-- One result was expected and there are several. -/
  | nonUniqueResult
  deriving DecidableEq, Repr, Inhabited

namespace ReportSort

def code : ReportSort → Option String
  | .general => none
  | .invalidArgument => some "INVALID_ARGUMENT"
  | .noResult => some "NO_RESULT"
  | .nonUniqueResult => some "NON_UNIQUE_RESULT"

def className : ReportSort → String
  | .general => "FlySpecException"
  | .invalidArgument => "InvalidArgumentException"
  | .noResult => "NoResultException"
  | .nonUniqueResult => "NonUniqueResultException"

def typeName (s : ReportSort) : String := "flyspec.kernel.exceptions." ++ s.className

def isTypeFault : ReportSort → Bool
  | .invalidArgument => true
  | _ => false

end ReportSort

structure Report where
  sort : ReportSort
  message : String
  code : Option String
  context : List (String × Value)
  deriving Inhabited

/-- A report with the code of its sort and no data, where none are given. -/
def Report.make (sort : ReportSort) (message : String) (code : Option String)
    (context : Option (List (String × Value))) : Report where
  sort := sort
  message := message
  code := code <|> sort.code
  context := context.getD []

end Criteria
