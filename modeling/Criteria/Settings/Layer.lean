import Criteria.Value

/-!
# Layers of settings

A layer is a nest of named values. Laying one over another replaces values and keeps what only one of
them has; where both have a section under a key, the sections are laid over each other in turn.
-/

namespace Criteria

abbrev Entries := List (Value × Value)

namespace Entries

def valueAt? (es : Entries) (k : Value) : Option Value :=
  (List.find? (fun e => e.1.sameKey k) es).map (·.2)

mutual

/-- A value in the place of another: two sections are laid over each other. -/
def cover (old : Option Value) : Value → Value
  | .map upper =>
    match old with
    | some (.map base) => .map (overlay base upper)
    | _ => .map upper
  | v => v

/-- Entries laid over entries. Keys of the base keep their places. -/
def overlay (base : Entries) : Entries → Entries
  | [] => base
  | (k, v) :: rest => overlay (Value.insertEntry base k (cover (valueAt? base k) v)) rest

end

/-- Layers from the lowest to the highest, laid over each other. -/
def stack (layers : List Entries) : Entries := layers.foldl overlay []

end Entries
end Criteria
