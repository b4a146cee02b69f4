/-!
# The schema

Two entities, users and the posts they write, with their columns, the relationship between them in
both directions, and the names under which a field of an entity can be reached. Besides columns and
relationships these are the attributes that the class of an entity has like any other class.
-/

namespace Criteria

/-! ## Entities and columns -/

inductive Entity where
  | user
  | post
  deriving DecidableEq, Repr, Inhabited

inductive ColumnType where
  | integer
  | text
  | boolean
  | dateTime
  deriving DecidableEq, Repr, Inhabited

structure Column where
  name : String
  type : ColumnType
  deriving DecidableEq, Repr, Inhabited

namespace Entity

def name : Entity → String
  | .user => "User"
  | .post => "Post"

def table : Entity → String
  | .user => "users"
  | .post => "posts"

/-- The columns, in the order in which rows hold them. The first one is the primary key. -/
def columns : Entity → List Column
  | .user =>
    [⟨"id", .integer⟩, ⟨"name", .text⟩, ⟨"role", .text⟩, ⟨"age", .integer⟩, ⟨"active", .boolean⟩,
      ⟨"email", .text⟩, ⟨"created_at", .dateTime⟩]
  | .post =>
    [⟨"id", .integer⟩, ⟨"title", .text⟩, ⟨"published", .boolean⟩, ⟨"author_id", .integer⟩]

def column? (e : Entity) (name : String) : Option Column :=
  e.columns.find? fun c => c.name == name

end Entity

/-! ## Relationships -/

/-- The two directions of authorship. Either joins `users.id` with `posts.author_id`. -/
inductive Relationship where
  | posts
  | author
  deriving DecidableEq, Repr, Inhabited

namespace Relationship

def name : Relationship → String
  | .posts => "posts"
  | .author => "author"

def owner : Relationship → Entity
  | .posts => .user
  | .author => .post

def target : Relationship → Entity
  | .posts => .post
  | .author => .user

def isCollection : Relationship → Bool
  | .posts => true
  | .author => false

end Relationship

/-- The key on the side of the users, and on the side of the posts. -/
def userKey : Column := ⟨"id", .integer⟩
def authorKey : Column := ⟨"author_id", .integer⟩

/-! ## Fields -/

/-- An attribute of a class that is neither a column nor a relationship: a text, or an object of which
the type and the written form are known. -/
inductive Attribute where
  | text (s : String)
  | object (typeName written : String)
  deriving DecidableEq, Repr

def Attribute.typeName : Attribute → String
  | .text _ => "str"
  | .object typeName _ => typeName

/-- What a field name of an entity stands for. -/
inductive Field where
  | column (c : Column)
  | relationship (r : Relationship)
  | plain (a : Attribute)
  deriving DecidableEq, Repr

def Entity.relationship? (e : Entity) (name : String) : Option Relationship :=
  [Relationship.posts, .author].find? fun r => r.owner == e && r.name == name

/-- The attributes of every entity besides its columns and relationships, by name. Of those that any class has by
itself only the name is among them; nothing that is proved depends on which these are. -/
def plainFields : List String := ["__tablename__", "__name__", "metadata", "registry"]

def Entity.attribute (e : Entity) (name : String) : Attribute :=
  match name with
  | "__tablename__" => .text e.table
  | "__name__" => .text e.name
  | "metadata" => .object "MetaData" "MetaData()"
  | _ => .object "registry" "<sqlalchemy.orm.decl_api.registry object>"

/-- The field of a given name; `none` where the entity has no such attribute. -/
def Entity.field? (e : Entity) (name : String) : Option Field :=
  match e.column? name, e.relationship? name with
  | some c, _ => some (.column c)
  | none, some r => some (.relationship r)
  | none, none => if plainFields.contains name then some (.plain (e.attribute name)) else none

end Criteria
