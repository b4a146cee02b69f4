import Criteria.Query.Modifier
import Criteria.Query.Session
import Criteria.Spec.Apply

/-!
# Repositories

A repository finds the entities of one type that match a specification. It builds a query for the
specification, lets a result modifier adjust it, and runs it in its session.
-/

namespace Criteria

/-- Where entities of one type are found. -/
structure Repository where
  entity : Entity
  /-- The alias by which specifications reach the entity. -/
  rootAlias : String := defaultAlias
  /-- Whether queries report their text when they run. -/
  logQueries : Bool := false
  hasSession : Bool := true
  deriving DecidableEq, Repr, Inhabited

/-- What building a query leaves besides its outcome. -/
structure Journal where
  trace : List Event := []
  notes : List String := []
  deriving Inhabited

namespace Repository

/-- The entity of a repository: the one it is given, or else the one it is declared for. -/
def entityOf (name : String) (given declared : Option Entity) : Except Fault Entity :=
  match given <|> declared with
  | some e => .ok e
  | none => .error (.noEntity name)

/-- A builder with a specification applied under an alias, or under the repository's own if none is
given, and whether that succeeded. -/
def builder (repo : Repository) (spec : Operand) (under : Option String) :
    Except Fault Unit × Builder :=
  let under := effectiveAlias under repo.rootAlias
  (Builder.ofEntity repo.entity under).run (spec.apply under)

/-- Lets a result modifier adjust a query; anything else is refused. -/
def adjust : Option Modifier → Modifying Unit
  | none => pure ()
  | some m => do
    if !m.isGenuine then throw (.foreignModifier m.typeName)
    m.apply

/-- The query for a specification, with what was reported and noted on the way. -/
def query (repo : Repository) (spec : Operand) (modifier : Option Modifier) :
    Except Fault Query × Journal :=
  match repo.builder spec none with
  | (.error f, b) => (.error f, { trace := b.trace })
  | (.ok _, b) =>
    let q : Query :=
      { statement := b.statement, inSession := repo.hasSession, logSql := repo.logQueries }
    match StateT.run (ExceptT.run (adjust modifier)) q with
    | (.error f, q) => (.error f, { trace := b.trace ++ q.trace, notes := q.notes })
    | (.ok _, q) => (.ok q, { trace := b.trace ++ q.trace, notes := q.notes })

/-- Runs the query for a specification, behind an announcement of what is looked for. -/
def runQuery (repo : Repository) (f : Fetch) (spec : Operand) (modifier : Option Modifier)
    (announce : Running Unit) : Running Result := do
  if !repo.hasSession then throw .noSession
  let (outcome, journal) := repo.query spec modifier
  for e in journal.trace do Session.report e
  match outcome with
  | .error fault => throw fault
  | .ok q =>
    announce
    q.fetch f

/-- Finds what matches a specification that can be written. Finding all reports what is looked for. -/
def find (repo : Repository) (f : Fetch) (spec : Operand) (modifier : Option Modifier) :
    Running Result :=
  repo.runQuery f spec modifier
    (if f = .all then Session.report (.matching repo.entity spec.printed) else pure ())

/-- Writes down what is looked for and reports it. -/
def announce (repo : Repository) (spec : Operand) : Running Unit :=
  match spec.written with
  | .ok text => Session.report (.matching repo.entity text)
  | .error fault => throw fault

/-- Finds what matches a specification, which for finding all has to be written down. -/
def fetch (repo : Repository) (f : Fetch) (spec : Operand) (modifier : Option Modifier) :
    Running Result :=
  repo.runQuery f spec modifier (if f = .all then repo.announce spec else pure ())

end Repository
end Criteria
