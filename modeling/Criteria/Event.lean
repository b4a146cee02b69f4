import Criteria.Schema
import Criteria.Value

/-!
# Events

What building and running queries reports on the way, in the order in which it happens.
-/

namespace Criteria

inductive Event where
  | builderCreated (entity : Entity) (rootAlias : String)
  /-- A relationship was joined: the alias and field it starts from, and the alias it is known by. -/
  | joined (path newAlias : String) (outer : Bool)
  /-- A member of a collection of modifiers is about to be applied. -/
  | applying (modifier : String)
  | matching (entity : Entity) (specification : String)
  | executing (sql hydration : String)
  deriving DecidableEq, Repr

namespace Event

def name : Event → String
  | .builderCreated _ _ => "query builder created"
  | .joined _ _ _ => "joined relationship"
  | .applying _ => "applying result modifier"
  | .matching _ _ => "matching specification"
  | .executing _ _ => "executing query"

def fields : Event → List (String × Value)
  | .builderCreated e a => [("entity", .str e.name), ("alias", .str a)]
  | .joined path a outer => [("path", .str path), ("alias", .str a), ("outer", .bool outer)]
  | .applying m => [("modifier", .str m)]
  | .matching e s => [("entity", .str e.name), ("spec", .str s)]
  | .executing sql mode => [("sql", .str sql), ("hydration", .str mode)]

end Event
end Criteria
