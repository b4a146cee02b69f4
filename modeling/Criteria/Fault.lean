import Criteria.Report

/-!
# Faults

Every way in which building, running or configuring can fail, as a cause with the data that
describes it. `Fault.message` is the one place where causes are put into words; `Fault.kind` sorts
them; `Fault.report?` is the form in which the library's own faults reach callers.
-/

namespace Criteria

/-! ## Kinds -/

/-- The sorts of faults that a caller can tell apart. -/
inductive FaultKind where
  /-- A specification or modifier was given something it cannot use. -/
  | invalidArgument
  /-- One result was expected and there is none. -/
  | noResult
  /-- One result was expected and there are several. -/
  | nonUniqueResult
  | wrongType
  | wrongValue
  | missingAttribute
  | notImplemented
  | runtime
  | overflow
  | zeroDivision
  /-- An operator was applied to an operand it does not take. -/
  | badOperand
  | badRequest
  /-- A value cannot be prepared for its column. -/
  | statement
  /-- A value cannot be bound. -/
  | binding
  /-- The statement is refused by the database. -/
  | operation
  | streaming
  | validation
  | missingKey
  | missingItem
  | textCharacters
  | textScan
  | textStructure
  | textReference
  | textTag
  | tableText
  deriving DecidableEq, Repr

/-! ## Causes -/

/-- What a child of a node has to be. -/
inductive ChildDemand where
  | filter
  | filterOrModifier
  deriving DecidableEq, Repr

/-- The stages at which the reader of an indented document can fail. -/
inductive DocumentFault where
  | characters
  | scan
  | shape
  | reference
  | tag
  deriving DecidableEq, Repr

/-- Which part of a written moment the calendar or the clock does not have. -/
inductive MomentFault where
  | year (y : Nat)
  | month
  | day
  | hour
  | minute
  | second
  | offset (micros : Int)
  deriving DecidableEq, Repr

inductive Fault where
  -- specifications
  | aliasInUse (name : String)
  | unknownAlias (name : String) (known : List String)
  | unknownField (field under : String)
  | notRelationship (field under : String)
  | badChild (parent : String) (demand : ChildDemand) (found : String)
  | badOperator (operator : String)
  | badOrder (order : String)
  | badFormat (format : String)
  | negativeCount (node : String) (count : String)
  | notIterable (typeName : String)
  | notOrdered (operator left right : String)
  | noBinaryOperator (operator left right : String)
  | noUnaryOperator (operator operand : String)
  | noFields
  | noAttribute (className name : String)
  | unknownKeyword (entity field : String)
  | missingArgument (function argument : String)
  | frozenAliases
  | notANumber (base : Nat) (literal : String)
  | notAnInteger (typeName : String)
  | tooManyDigits
  | truncation (why : Binary64.NotAnInteger)
  -- column operators
  | constantOperand
  | abstractFilter
  | collectionCompared
  | entityExpected
  | membershipOfRelationship
  | noRelationshipOperator (operator : String)
  | noGroupingByText (text : String)
  | noGroupingByObject (written : String)
  -- result modifiers
  | nonPositiveStep (printed : String)
  | foreignModifier (typeName : String)
  | foreignMember (typeName : String)
  /-- A modifier of the caller's own failed. -/
  | raised (message : String)
  | zeroStep
  | stepTooLong (days : Int)
  | outsideCalendar
  -- running
  | noSession
  | queryWithoutSession
  | noEntity (repository : String)
  | noRow
  | severalRows
  | severalResults (count : Nat)
  | unhashable (typeName : String)
  | notBoolean (printed : String)
  | strictBoolean (printed : String)
  | notADate
  | notATime
  | notADateTime
  | notReal (reason : String)
  | unbindable (position : Nat) (typeName : String)
  | integerTooLarge
  | havingWithoutAggregate
  | misplacedAggregate (inAggregate : Bool)
  | ambiguousColumn (source column : String)
  | serverCursor
  -- settings
  | placeholderDepth (text : String)
  | unresolvedPlaceholder (reference : String)
  | notFloatLiteral (literal : String)
  | notBindable (settings : String)
  | missingSettings (settings : String) (fields : List String)
  | invalidProperties (settings : String) (details : List (String × String))
  | invalidSettings (settings sectionName : String) (details : List (String × String))
  | rootNotMapping (className : String)
  | invalidFileName (name : String)
  | unknownWord (word : String)
  | emptyNumber
  | noSuchMoment (why : MomentFault)
  | document (stage : DocumentFault)
  | tables

namespace Fault

/-! ## Wording -/

/-- `n error(s) for a settings class`, in the singular for one. -/
def errorCount (settings : String) (n : Nat) : String :=
  toString n ++ (if n = 1 then " validation error for " else " validation errors for ") ++ settings

/-- `'a'`, `'a' and 'b'`, `'a', 'b', and 'c'` -/
def quotedList (names : List String) : String :=
  match names.map (fun n => "'" ++ n ++ "'") with
  | [] => ""
  | [a] => a
  | [a, b] => a ++ " and " ++ b
  | many => ", ".intercalate many.dropLast ++ ", and " ++ many.getLastD ""

def demandText : ChildDemand → String
  | .filter => "Filter"
  | .filterOrModifier => "Filter or QueryModifier"

/-- A length of time, with as few units as it needs. -/
def durationText (micros : Int) : String :=
  "datetime.timedelta(" ++ ", ".intercalate (Value.durationParts micros) ++ ")"

def momentText : MomentFault → String
  | .year y => "year " ++ toString y ++ " is out of range"
  | .month => "month must be in 1..12"
  | .day => "day is out of range for month"
  | .hour => "hour must be in 0..23"
  | .minute => "minute must be in 0..59"
  | .second => "second must be in 0..59"
  | .offset micros =>
    "offset must be a timedelta strictly between -timedelta(hours=24) and timedelta(hours=24), not " ++
      durationText micros ++ "."

def message : Fault → String
  | .aliasInUse a => "Alias '" ++ a ++ "' is already in use"
  | .unknownAlias a known =>
    "Unknown alias '" ++ a ++ "'; known aliases: " ++ ", ".intercalate known
  | .unknownField f a => "'" ++ f ++ "' is not an attribute of alias '" ++ a ++ "'"
  | .notRelationship f a =>
    "'" ++ a ++ "." ++ f ++ "' is not a relationship and cannot be joined"
  | .badChild parent demand found =>
    "Child passed to " ++ parent ++ " must be a " ++ demandText demand ++
      ", but instance of " ++ found ++ " found"
  | .badOperator op =>
    "\"" ++ op ++ "\" is not a valid comparison operator. Valid operators are: " ++
      "=, <>, <, <=, >, >="
  | .badOrder order =>
    "\"" ++ order ++ "\" is not a valid sort order; use \"ASC\" or \"DESC\""
  | .badFormat format =>
    "\"" ++ format ++ "\" is not a valid LIKE format; " ++
      "use Like.CONTAINS, Like.STARTS_WITH or Like.ENDS_WITH"
  | .negativeCount node count => node ++ " must not be negative, got " ++ count
  | .notIterable t => "'" ++ t ++ "' object is not iterable"
  | .notOrdered op l r =>
    "'" ++ op ++ "' not supported between instances of '" ++ l ++ "' and '" ++ r ++ "'"
  | .noBinaryOperator op l r =>
    "unsupported operand type(s) for " ++ op ++ ": '" ++ l ++ "' and '" ++ r ++ "'"
  | .noUnaryOperator op t => "bad operand type for unary " ++ op ++ ": '" ++ t ++ "'"
  | .noFields => "vars() argument must have __dict__ attribute"
  | .noAttribute c a => "'" ++ c ++ "' object has no attribute '" ++ a ++ "'"
  | .unknownKeyword e f => "'" ++ f ++ "' is an invalid keyword argument for " ++ e
  | .missingArgument f a => f ++ "() missing 1 required positional argument: '" ++ a ++ "'"
  | .frozenAliases => "'mappingproxy' object does not support item assignment"
  | .notANumber base s =>
    "invalid literal for int() with base " ++ toString base ++ ": " ++ Text.quote s
  | .notAnInteger t =>
    "int() argument must be a string, a bytes-like object or a real number, not '" ++ t ++ "'"
  | .tooManyDigits =>
    "Exceeds the limit (" ++ toString Value.digitLimit ++ " digits) for integer string conversion; " ++
      "use sys.set_int_max_str_digits() to increase the limit"
  | .truncation .nan => "cannot convert float NaN to integer"
  | .truncation .infinity => "cannot convert float infinity to integer"
  | .constantOperand =>
    "Only '=', '!=', 'is_()', 'is_not()', 'is_distinct_from()', 'is_not_distinct_from()' " ++
      "operators can be used with None/True/False"
  | .abstractFilter => ""
  | .collectionCompared =>
    "Can't compare a collection to an object or collection; " ++
      "use contains() to test for membership."
  | .entityExpected =>
    "Mapped instance expected for relationship comparison to object.   Classes, queries and " ++
      "other SQL elements are not accepted in this context; for comparison with a subquery, " ++
      "use Post.author.has(**criteria)."
  | .membershipOfRelationship =>
    "in_() not yet supported for relationships.  For a simple many-to-one, use in_() against " ++
      "the set of foreign key values."
  | .noRelationshipOperator op => op
  | .noGroupingByText t =>
    "Can't resolve label reference for ORDER BY / GROUP BY / DISTINCT etc. Textual SQL expression " ++
      Text.quote t ++ " should be explicitly declared as text(" ++ Text.quote t ++ ")"
  | .noGroupingByObject written => "GROUP BY / OF / etc. expression expected, got " ++ written ++ "."
  | .nonPositiveStep printed => "round_seconds must be positive, got " ++ printed
  | .foreignModifier t =>
    "Result modifier must be an instance of flyspec.result.ResultModifier, but instance of " ++
      t ++ " found"
  | .foreignMember t =>
    "Child passed to ResultModifierCollection must be an instance of " ++
      "flyspec.result.ResultModifier, but instance of " ++ t ++ " found"
  | .raised message => message
  | .zeroStep => "integer modulo by zero"
  | .stepTooLong days =>
    if -2147483648 ≤ days ∧ days < 2147483648 then
      "days=" ++ toString days ++ "; must have magnitude <= 999999999"
    else "Python int too large to convert to C int"
  | .outsideCalendar => "date value out of range"
  | .noSession => "No AsyncSession configured; pass session= to the repository"
  | .queryWithoutSession => "No AsyncSession configured for this query"
  | .noEntity repository =>
    repository ++ " requires either EntitySpecificationRepository[Entity] declaration or " ++
      "explicit model argument"
  | .noRow => "No result was found for query although at least one row was expected."
  | .severalRows => "The query returned more than one row."
  | .severalResults _ => "The query returned more than one result."
  | .unhashable t => "(builtins.TypeError) unhashable type: '" ++ t ++ "'"
  | .notBoolean printed => "(builtins.TypeError) Not a boolean value: " ++ printed
  | .strictBoolean printed =>
    "(builtins.ValueError) Value " ++ printed ++ " is not None, True, or False"
  | .notADate =>
    "(builtins.TypeError) SQLite Date type only accepts Python date objects as input."
  | .notATime =>
    "(builtins.TypeError) SQLite Time type only accepts Python time objects as input."
  | .notADateTime =>
    "(builtins.TypeError) SQLite DateTime type only accepts Python datetime and date objects " ++
      "as input."
  | .notReal reason => reason
  | .unbindable position t =>
    "(sqlite3.ProgrammingError) Error binding parameter " ++ toString position ++ ": type '" ++
      t ++ "' is not supported"
  | .integerTooLarge => "Python int too large to convert to SQLite INTEGER"
  | .havingWithoutAggregate =>
    "(sqlite3.OperationalError) HAVING clause on a non-aggregate query"
  | .misplacedAggregate inAggregate =>
    "(sqlite3.OperationalError) misuse of aggregate" ++
      (if inAggregate then ": count()" else " function count()")
  | .ambiguousColumn s c => "(sqlite3.OperationalError) ambiguous column name: " ++ s ++ "." ++ c
  | .serverCursor =>
    "Can't use the AsyncSession.execute() method with a server-side cursor. " ++
      "Use the AsyncSession.stream() method for an async streaming result set."
  | .placeholderDepth text =>
    "Placeholder nesting too deep in '" ++ text ++ "' (circular reference?)"
  | .unresolvedPlaceholder reference =>
    "Cannot resolve placeholder '$\x7b" ++ reference ++ "\x7d'"
  | .notFloatLiteral s => "could not convert string to float: " ++ Text.quote s
  | .notBindable settings => settings ++ " is not decorated with @config_properties"
  | .missingSettings settings fields =>
    settings ++ ".__init__() missing " ++ toString fields.length ++ " required positional " ++
      (if fields.length = 1 then "argument: " else "arguments: ") ++ quotedList fields
  | .invalidProperties settings details => errorCount settings details.length
  | .invalidSettings settings sectionName _ =>
    "Configuration validation failed for '" ++ settings ++ "' (prefix='" ++ sectionName ++ "'):"
  | .rootNotMapping c => "'" ++ c ++ "' object has no attribute 'items'"
  | .invalidFileName name => "Invalid name " ++ Text.quote name
  | .unknownWord word => Text.quote word
  | .emptyNumber => "string index out of range"
  | .noSuchMoment why => momentText why
  | .document _ => ""
  | .tables => ""

/-! ## Classification -/

def kind : Fault → FaultKind
  | .aliasInUse _ | .unknownAlias _ _ | .unknownField _ _ | .notRelationship _ _
  | .badChild _ _ _ | .badOperator _ | .badOrder _ | .badFormat _ | .negativeCount _ _
  | .nonPositiveStep _ | .foreignModifier _ | .foreignMember _ => .invalidArgument
  | .noRow => .noResult
  | .severalRows | .severalResults _ => .nonUniqueResult
  | .notIterable _ | .notOrdered _ _ _ | .noBinaryOperator _ _ _ | .noUnaryOperator _ _
  | .noFields | .unknownKeyword _ _ | .missingArgument _ _ | .frozenAliases | .notAnInteger _
  | .noEntity _ | .missingSettings _ _ => .wrongType
  | .notANumber _ _ | .tooManyDigits | .truncation .nan | .placeholderDepth _ | .unresolvedPlaceholder _
  | .notFloatLiteral _ | .notBindable _ | .invalidSettings _ _ _ | .invalidFileName _
  | .noSuchMoment _ => .wrongValue
  | .unknownWord _ => .missingKey
  | .emptyNumber => .missingItem
  | .noAttribute _ _ | .rootNotMapping _ => .missingAttribute
  | .abstractFilter | .membershipOfRelationship | .noRelationshipOperator _ => .notImplemented
  | .raised _ | .noSession | .queryWithoutSession => .runtime
  | .truncation .infinity | .stepTooLong _ | .outsideCalendar | .integerTooLarge => .overflow
  | .zeroStep => .zeroDivision
  | .constantOperand | .entityExpected | .noGroupingByText _ | .noGroupingByObject _ => .badOperand
  | .collectionCompared => .badRequest
  | .unhashable _ | .notBoolean _ | .strictBoolean _ | .notADate | .notATime | .notADateTime
  | .notReal _ => .statement
  | .unbindable _ _ => .binding
  | .havingWithoutAggregate | .misplacedAggregate _ | .ambiguousColumn _ _ => .operation
  | .serverCursor => .streaming
  | .invalidProperties _ _ => .validation
  | .document .characters => .textCharacters
  | .document .scan => .textScan
  | .document .shape => .textStructure
  | .document .reference => .textReference
  | .document .tag => .textTag
  | .tables => .tableText

/-- The sort of report that a fault of the library itself is. -/
def sort? (f : Fault) : Option ReportSort :=
  match f.kind with
  | .invalidArgument => some .invalidArgument
  | .noResult => some .noResult
  | .nonUniqueResult => some .nonUniqueResult
  | _ => none

/-- The data that the library's own faults carry. -/
def context : Fault → List (String × Value)
  | .aliasInUse a | .unknownAlias a _ => [("alias", .str a)]
  | .unknownField f a | .notRelationship f a => [("alias", .str a), ("field", .str f)]
  | .badChild _ _ t | .foreignMember t => [("child_type", .str t)]
  | .badOperator op => [("operator", .str op)]
  | .badOrder order => [("order", .str order)]
  | .badFormat format => [("format", .str format)]
  | .foreignModifier t => [("modifier_type", .str t)]
  | .severalResults n => [("count", .int n)]
  | _ => []

def report? (f : Fault) : Option Report :=
  f.sort?.map fun sort => Report.make sort f.message none (some f.context)

/-- Which fields of a settings class were refused, and why. -/
def details : Fault → List (String × String)
  | .invalidProperties _ details | .invalidSettings _ _ details => details
  | _ => []

end Fault
end Criteria
