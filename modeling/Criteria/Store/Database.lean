import Criteria.Store.Binding

/-!
# The database

Two tables of records. A record holds one cell for each column of its entity, in the order of the
columns.
-/

namespace Criteria

/-- The cells of one entity, in the order of its columns. -/
abbrev Record := List Cell

def Record.cell (e : Entity) (r : Record) (name : String) : Cell :=
  (((e.columns.map (·.name)).zip r).lookup name).getD .null

def Record.set (e : Entity) (r : Record) (name : String) (c : Cell) : Record :=
  ((e.columns.map (·.name)).zip r).map fun (n, old) => if n = name then c else old

def Record.key (r : Record) : Cell := r.headD .null

/-- The cell that a column of the given type stores for a value, prepared as what the column holds. -/
def Cell.stored (type : ColumnType) (v : Value) : Cell :=
  (cellOf (.ofColumn type) v).adapt (some type)

/-- The contents of the two tables, each in the order of its keys. -/
structure Database where
  users : List Record
  posts : List Record
  deriving Inhabited

namespace Database

def records (db : Database) : Entity → List Record
  | .user => db.users
  | .post => db.posts

def ofRecords (users posts : List Record) : Database where
  users := byKey users
  posts := byKey posts
where
  byKey (records : List Record) : List Record :=
    records.mergeSort fun r s => r.key.order s.key != .gt

def update (db : Database) (e : Entity) (key : Cell) (column : String) (c : Cell) : Database :=
  let change (r : Record) : Record := if r.key = key then r.set e column c else r
  match e with
  | .user => { db with users := db.users.map change }
  | .post => { db with posts := db.posts.map change }

def stamp (text : String) : Cell := ((DateTime.read? text).map Cell.stamp).getD .null

/-- Four users, two of whom have written posts. -/
def sample : Database where
  users :=
    [[.int 1, .text "Alice", .text "admin", .int 30, .ofBool true, .text "alice@example.com",
        stamp "2024-05-01T09:30:00"],
      [.int 2, .text "Bob", .text "user", .int 25, .ofBool true, .null,
        stamp "2024-05-01T10:05:00"],
      [.int 3, .text "Charlie", .text "admin", .int 40, .ofBool false,
        .text "charlie@example.com", stamp "2024-05-01T11:45:00"],
      [.int 4, .text "Diana", .text "user", .int 35, .ofBool false, .null,
        stamp "2024-05-02T08:00:00"]]
  posts :=
    [[.int 1, .text "Intro to SQL", .ofBool true, .int 1],
      [.int 2, .text "Advanced SQL", .ofBool false, .int 1],
      [.int 3, .text "Cooking at home", .ofBool true, .int 2]]

end Database
end Criteria
