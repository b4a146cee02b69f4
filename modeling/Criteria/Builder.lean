import Criteria.Event
import Criteria.Fault
import Criteria.Statement.Basic

/-!
# The builder

A builder holds the statement under construction and the aliases under which its entities are
reached. Specifications are applied to it one after another; a step that fails leaves the builder as
the steps before it have made it.
-/

namespace Criteria

/-- A statement under construction. -/
structure Builder where
  rootAlias : String
  root : Entity
  /-- What each alias stands for, in the order of registration. -/
  aliases : List (String × Source)
  statement : Statement
  /-- What has been reported so far. -/
  trace : List Event := []
  deriving Inhabited

/-- A step that changes a builder and may fail. The builder is kept also on failure. -/
abbrev Building := ExceptT Fault (StateM Builder)

namespace Builder

/-- A builder on a given statement whose root entity is known by `under`. -/
def start (root : Entity) (under : String) (statement : Statement) : Builder where
  rootAlias := under
  root := root
  aliases := [(under, .table root)]
  statement := statement
  trace := [.builderCreated root under]

def ofEntity (root : Entity) (under : String) : Builder := start root under (.ofEntity root)

/-! ## Aliases -/

/-- The registered aliases by code point. -/
def knownAliases (b : Builder) : List String :=
  (b.aliases.map (·.1)).mergeSort fun x y => x ≤ y

def source (b : Builder) (under : String) : Except Fault Source :=
  match b.aliases.lookup under with
  | some s => .ok s
  | none => .error (.unknownAlias under b.knownAliases)

def field (b : Builder) (name under : String) : Except Fault (Source × Field) := do
  let s ← b.source under
  match s.entity.field? name with
  | some f => .ok (s, f)
  | none => .error (.unknownField name under)

/-- A field as something to group by and to count. A text would have to be the label of something that is
selected, which no plain attribute is. -/
def term (b : Builder) (name under : String) : Except Fault Term := do
  match ← b.field name under with
  | (s, .column c) => .ok (.column ⟨s, c⟩)
  | (s, .relationship r) => .ok (.link s r)
  | (_, .plain (.text t)) => .error (.noGroupingByText t)
  | (_, .plain (.object _ written)) => .error (.noGroupingByObject written)

/-! ## Steps -/

/-- Runs a step and gives the builder it leaves together with its outcome. -/
def run {α : Type} (b : Builder) (step : Building α) : Except Fault α × Builder :=
  StateT.run (ExceptT.run step) b

def change (f : Statement → Statement) : Building Unit :=
  modify fun b => { b with statement := f b.statement }

def ask {α : Type} (question : Builder → Except Fault α) : Building α := do
  match question (← get) with
  | .ok a => pure a
  | .error f => throw f

/-- The number that a limit or offset stands for: whole, cut or read from text; none takes the limit
away. -/
def countOf (v : Value) : Except Fault (Option Int) :=
  match v with
  | .null => .ok none
  | .bool b => .ok (some (if b then 1 else 0))
  | .int n => .ok (some n)
  | .float x =>
    match x.truncate with
    | .ok n => .ok (some n)
    | .error why => .error (.truncation why)
  | .str s =>
    match Number.readInt? s with
    | some n => .ok (some n)
    | none => .error (.notANumber 10 s)
  | v => .error (.notAnInteger v.className)

def limit (count : Value) : Building Unit := do
  let n ← ask fun _ => countOf count
  change fun s => { s with limit := n }

def offset (count : Value) : Building Unit := do
  let n ← ask fun _ => countOf count
  change fun s => { s with offset := n }

def distinct : Building Unit := change fun s => { s with distinct := true }

/-- The relationship that a join follows from an alias to a fresh one. -/
def joinStep (b : Builder) (name newAlias under : String) (outer : Bool) :
    Except Fault JoinStep := do
  if (b.aliases.lookup newAlias).isSome then throw (.aliasInUse newAlias)
  match ← b.field name under with
  | (s, .relationship r) => .ok ⟨s, r, .joined newAlias r.target, outer⟩
  | _ => throw (.notRelationship name under)

/-- Joins a relationship and registers where it leads to as `newAlias`. -/
def join (name newAlias under : String) (outer : Bool) : Building Unit := do
  let j ← ask fun b => b.joinStep name newAlias under outer
  modify fun b =>
    { b with
      statement := b.statement.addJoin j
      aliases := b.aliases ++ [(newAlias, j.target)]
      trace := b.trace ++ [.joined (under ++ "." ++ name) newAlias outer] }

end Builder
end Criteria
