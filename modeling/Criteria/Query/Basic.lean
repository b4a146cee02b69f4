import Criteria.Event
import Criteria.Statement.Rows

/-!
# Queries

A query is a finished statement with the settings that decide how it runs and in which form its rows
come back. Hydration turns the rows of a statement into results: entities, column values, maps of
columns, or a single value.
-/

namespace Criteria

/-- The form in which rows come back. -/
inductive Hydration where
  /-- Entities and values as they are; an entity that a join repeats appears once. -/
  | object
  /-- One map of column values for each row. -/
  | array
  /-- The first element of each row. -/
  | scalar
  /-- Exactly one value. -/
  | singleScalar
  deriving DecidableEq, Repr, Inhabited

def Hydration.name : Hydration → String
  | .object => "object"
  | .array => "array"
  | .scalar => "scalar"
  | .singleScalar => "single_scalar"

structure Query where
  statement : Statement
  /-- Whether the query belongs to a session in which it can run. -/
  inSession : Bool := false
  mode : Hydration := .object
  /-- Options of the execution, in the order in which they were first set. -/
  options : List (String × Value) := []
  /-- Whether running the query reports its text. -/
  logSql : Bool := false
  /-- What has been reported so far. -/
  trace : List Event := []
  /-- What recording modifiers have noted so far. -/
  notes : List String := []
  deriving Inhabited

namespace Query

/-- Sets an option: one that is set already keeps its place. -/
def setOption (options : List (String × Value)) (name : String) (v : Value) :
    List (String × Value) :=
  match options with
  | [] => [(name, v)]
  | (n, w) :: rest => if n = name then (n, v) :: rest else (n, w) :: setOption rest name v

def hasOption (q : Query) (name : String) : Bool :=
  ((q.options.lookup name).map Value.truthy).getD false

/-- The text of the statement, in the dialect of the session if there is one. -/
def sql (q : Query) : String := (q.statement.sql (if q.inSession then .sqlite else .common)).text

end Query

/-! ## Results -/

inductive Result where
  /-- An entity with the record it was loaded from. -/
  | entity (e : Entity) (r : Record)
  | value (v : Value)
  | tuple (items : List Result)
  | list (items : List Result)
  deriving Inhabited

namespace Result

def fieldsOf (e : Entity) (r : Record) : List (String × Value) :=
  e.columns.map fun c => (c.name, (r.cell e c.name).load c.type)

/-- The result that an element of a row stands for. -/
def ofElement : Element → Result
  | .entity e (some r) => .entity e r
  | .entity _ none => .value .null
  | .cell type c => .value (c.load type)

/-- The value of an element inside a map: an entity as the map of its columns. -/
def valueOfElement : Element → Value
  | .entity e (some r) => .ofFields (fieldsOf e r)
  | .entity _ none => .null
  | .cell type c => c.load type

mutual

def entities : Result → List (Entity × Record)
  | .entity e r => [(e, r)]
  | .value _ => []
  | .tuple items | .list items => entitiesOf items

def entitiesOf : List Result → List (Entity × Record)
  | [] => []
  | r :: rest => entities r ++ entitiesOf rest

end

end Result

/-! ## Keys of maps -/

/-- The name that an item brings to a map of its row. -/
def SelectItem.baseName : SelectItem → String
  | .entity e => e.name
  | .column _ c label => label.getD c.name
  | .count label => label.getD "count"

/-- The keys under which the items of a row appear in a map. A name that an earlier column has
already is numbered, with one number for each column. -/
def rowKeys (items : List SelectItem) : List String := go [] [] items
where
  /-- `taken` holds the names used, `numbered` the columns that have got a number. -/
  go (taken : List String) (numbered : List SelectItem) : List SelectItem → List String
    | [] => []
    | .entity e :: rest => e.name :: go taken numbered rest
    | i :: rest =>
      let name := i.baseName
      if taken.contains name then
        let numbered := if numbered.contains i then numbered else numbered ++ [i]
        let sameName := numbered.filter fun j => j.baseName == name
        (name ++ "_" ++ toString (sameName.idxOf i + 1)) :: go taken numbered rest
      else name :: go (name :: taken) numbered rest

/-- The map of a row: of the columns of its only entity, or of its elements by their keys. -/
def rowMap (keys : List String) (row : List Element) : Value :=
  match row with
  | [.entity e (some r)] => .ofFields (Result.fieldsOf e r)
  | row =>
    .map ((keys.zip row).foldl
      (fun m p => Value.insertEntry m (.str p.1) (Result.valueOfElement p.2)) [])

/-! ## Hydration -/

def sameEntity (e f : Entity) (r s : Record) : Bool := e == f && r.key == s.key

/-- Drops entities that have appeared before; values stay. -/
def dropRepeatedEntities (seen : List (Entity × Record)) : List Element → List Element
  | [] => []
  | .entity e (some r) :: rest =>
    if seen.any fun s => sameEntity s.1 e s.2 r then dropRepeatedEntities seen rest
    else .entity e (some r) :: dropRepeatedEntities ((e, r) :: seen) rest
  | a :: rest => a :: dropRepeatedEntities seen rest

def hydrate (mode : Hydration) (items : List SelectItem) (rows : List (List Element)) :
    Except Fault Result :=
  match mode with
  | .singleScalar =>
    match rows with
    | [] => .error .noRow
    | [row] => .ok ((row.head?.map Result.ofElement).getD (.value .null))
    | _ => .error .severalRows
  | .scalar => .ok (.list (rows.filterMap fun row => row.head?.map Result.ofElement))
  | .array => .ok (.list (rows.map fun row => .value (rowMap (rowKeys items) row)))
  | .object =>
    if items.length = 1 then
      .ok (.list ((dropRepeatedEntities [] rows.flatten).map Result.ofElement))
    else .ok (.list (rows.map fun row => .tuple (row.map Result.ofElement)))

def single (mode : Hydration) (r : Result) : Except Fault Result :=
  match mode, r with
  | .singleScalar, r => .ok r
  | _, .list [] => .error .noRow
  | _, .list [x] => .ok x
  | _, .list xs => .error (.severalResults xs.length)
  | _, r => .ok r

inductive Fetch where
  | all
  | single
  | oneOrNone
  deriving DecidableEq, Repr

def Fetch.select (f : Fetch) (mode : Hydration) (found : Except Fault Result) :
    Except Fault Result :=
  match f with
  | .all => found
  | .single => found.bind (Criteria.single mode)
  | .oneOrNone =>
    match found.bind (Criteria.single mode) with
    | .error .noRow => .ok (.value .null)
    | r => r

end Criteria
