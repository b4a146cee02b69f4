import Criteria.Query.Basic

/-!
# Sessions

A session has a database and remembers the entities that earlier results still hold. Which rows a
query finds is always decided by the database; a remembered entity that is found again keeps the values
it was loaded with, unless the query asks for fresh ones, in which case it is loaded anew.
-/

namespace Criteria

structure Session where
  database : Database
  /-- The entities held, with the records they were last loaded from. -/
  held : List (Entity × Record) := []
  /-- What has been reported so far. -/
  trace : List Event := []
  deriving Inhabited

/-- A run in a session. The session is kept also on failure. -/
abbrev Running := ExceptT Fault (StateM Session)

namespace Session

/-- The record by which an entity is remembered. -/
def lastSeen? (held : List (Entity × Record)) (e : Entity) (r : Record) : Option Record :=
  (held.find? fun h => sameEntity h.1 e h.2 r).map (·.2)

/-- The values that an element shows: those remembered, if there are any. -/
def shown (held : List (Entity × Record)) : Element → Element
  | .entity e (some r) => .entity e (some ((lastSeen? held e r).getD r))
  | a => a

def refreshOne (held : List (Entity × Record)) : Element → List (Entity × Record)
  | .entity e (some r) => held.map fun h => if sameEntity h.1 e h.2 r then (e, r) else h
  | _ => held

def refresh (held : List (Entity × Record)) (rows : List (List Element)) :
    List (Entity × Record) :=
  rows.flatten.foldl refreshOne held

/-- Remembers the entities of a result that are not held yet. -/
def hold (held : List (Entity × Record)) (r : Result) : List (Entity × Record) :=
  r.entities.foldl
    (fun held x => if (lastSeen? held x.1 x.2).isSome then held else held ++ [x]) held

def report (e : Event) : Running Unit := modify fun s => { s with trace := s.trace ++ [e] }

end Session

namespace Query

/-- Runs the statement in the current session and loads the entities it finds. -/
def load (q : Query) : Running (List (List Element)) := do
  if !q.inSession then throw .queryWithoutSession
  if q.logSql then Session.report (.executing q.sql q.mode.name)
  let session ← get
  match q.statement.run session.database with
  | .error f => throw f
  | .ok rows =>
    if q.hasOption "stream_results" || q.hasOption "yield_per" then throw .serverCursor
    if q.hasOption "populate_existing" then
      modify fun s => { s with held := Session.refresh s.held rows }
      return rows
    else return rows.map fun row => row.map (Session.shown session.held)

/-- The results of a query. Entities in them are held from then on. -/
def fetch (q : Query) (f : Fetch) : Running Result := do
  let rows ← q.load
  match f.select q.mode (hydrate q.mode q.statement.items rows) with
  | .error fault => throw fault
  | .ok r =>
    modify fun s => { s with held := Session.hold s.held r }
    return r

end Query
end Criteria
