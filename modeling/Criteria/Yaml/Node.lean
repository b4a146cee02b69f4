import Criteria.Fault
import Criteria.Yaml.Moment
import Criteria.Yaml.Token

/-!
# Nodes of YAML

`Node.ofTokens` builds the tree of a document from its tokens. Anchored nodes are remembered, and an alias
stands for the node that was anchored before it.
-/

namespace Criteria.Yaml

inductive Node where
  | scalar (tag : Tag) (text : String)
  | sequence (tag : Tag) (items : List Node)
  | mapping (tag : Tag) (entries : List (Node × Node))
  deriving Inhabited

/-- The tag of a plain text by its form. -/
def Tag.ofPlain (s : String) : Tag :=
  let cs := s.toList
  if Tag.isTruthWord s then .bool
  else if Tag.isFloat cs then .float
  else if Tag.isInt cs then .int
  else if s = "<<" then .merge
  else if Tag.nullWords.contains s then .null
  else if ((MomentText.read? cs).map MomentText.isPlain).getD false then .timestamp
  else if s = "=" then .value
  else .str

namespace Node

def absent : Node := .scalar .null ""

def tag : Node → Tag
  | .scalar t _ | .sequence t _ | .mapping t _ => t

/-! ## The reader -/

structure Reader where
  tokens : List Token
  /-- What handles of tags stand for. -/
  handles : List (String × String) := []
  /-- The names of the anchors met so far. -/
  anchors : List String := []
  /-- The nodes behind the anchors that are complete. -/
  nodes : List (String × Node) := []

abbrev Reading := StateT Reader (Except DocumentFault)

def peek : Reading Token := do
  match (← get).tokens with
  | [] | .broken :: _ => throw .scan
  | t :: _ => return t

def skip : Reading Unit := modify fun r => { r with tokens := r.tokens.drop 1 }

def skipIf (t : Token) : Reading Bool := do
  if (← peek) = t then
    skip
    return true
  else return false

def atOneOf (ts : List Token) : Reading Bool := do return ts.contains (← peek)

def require (t : Token) : Reading Unit := do if !(← skipIf t) then throw .shape

/-! ## Properties of nodes -/

def tagName (handle : Option String) (suffix : String) : Reading String := do
  match handle with
  | none => return suffix
  | some h =>
    match (← get).handles.lookup h with
    | some start => return start ++ suffix
    | none => throw .shape

def anchor? : Reading (Option String) := do
  match ← peek with
  | .anchor name => skip; return some name
  | _ => return none

def tag? : Reading (Option (Option String × String)) := do
  match ← peek with
  | .tag handle suffix => skip; return some (handle, suffix)
  | _ => return none

/-- The anchor and the name of the tag in front of a node, in either order. -/
def properties : Reading (Option String × Option String) := do
  let first ← anchor?
  let tag ← tag?
  let anchor ← if first.isNone && tag.isSome then anchor? else pure first
  match tag with
  | none => return (anchor, none)
  | some (handle, suffix) => return (anchor, some (← tagName handle suffix))

/-- Notes the name of an anchor, which must be new. -/
def declare (anchor : Option String) : Reading Unit := do
  match anchor with
  | none => pure ()
  | some name =>
    if (← get).anchors.contains name then throw .reference
    modify fun r => { r with anchors := name :: r.anchors }

def keep (anchor : Option String) (n : Node) : Reading Node := do
  match anchor with
  | none => pure ()
  | some name => modify fun r => { r with nodes := (name, n) :: r.nodes }
  return n

/-- The tag of a collection: an exclamation mark alone says nothing. -/
def collectionTag (otherwise : Tag) : Option String → Tag
  | none | some "!" => otherwise
  | some name => Tag.ofName name

/-- The tag of a text: an exclamation mark alone makes it plain. -/
def textTag (plain : Bool) (text : String) : Option String → Tag
  | none => if plain then Tag.ofPlain text else .str
  | some "!" => Tag.ofPlain text
  | some name => Tag.ofName name

/-! ## Nodes -/

mutual

/-- A node. Block collections are allowed only outside brackets, and a sequence without an indentation of
its own only as a value or key of a block. -/
def node (fuel : Nat) (block indentless : Bool) : Reading Node :=
  match fuel with
  | 0 => throw .shape
  | fuel + 1 => do
    match ← peek with
    | .reference name =>
      skip
      match (← get).nodes.lookup name with
      | some n => return n
      | none => throw .reference
    | _ =>
      let (anchor, tag) ← properties
      let t ← peek
      if t = .blockEntry && indentless then
        declare anchor
        keep anchor (.sequence (collectionTag .seq tag) (← looseItems fuel))
      else
        match t with
        | .scalar text plain =>
          skip
          declare anchor
          keep anchor (.scalar (textTag plain text tag) text)
        | .flowSequenceStart =>
          declare anchor
          skip
          keep anchor (.sequence (collectionTag .seq tag) (← flowItems fuel true))
        | .flowMappingStart =>
          declare anchor
          skip
          keep anchor (.mapping (collectionTag .map tag) (← flowEntries fuel true))
        | t =>
          if t = .blockSequenceStart && block then
            declare anchor
            skip
            keep anchor (.sequence (collectionTag .seq tag) (← blockItems fuel))
          else if t = .blockMappingStart && block then
            declare anchor
            skip
            keep anchor (.mapping (collectionTag .map tag) (← blockEntries fuel))
          else if anchor.isSome || tag.isSome then
            declare anchor
            keep anchor (.scalar (textTag true "" tag) "")
          else throw .shape

def nodeUnless (fuel : Nat) (stops : List Token) (block indentless : Bool) : Reading Node :=
  match fuel with
  | 0 => throw .shape
  | fuel + 1 => do
    if ← atOneOf stops then return absent else node fuel block indentless

def blockItems (fuel : Nat) : Reading (List Node) :=
  match fuel with
  | 0 => throw .shape
  | fuel + 1 => do
    if ← skipIf .blockEntry then
      let item ← nodeUnless fuel [.blockEntry, .blockEnd] true false
      return item :: (← blockItems fuel)
    else
      require .blockEnd
      return []

/-- The items of a sequence without an indentation of its own. -/
def looseItems (fuel : Nat) : Reading (List Node) :=
  match fuel with
  | 0 => throw .shape
  | fuel + 1 => do
    if ← skipIf .blockEntry then
      let item ← nodeUnless fuel [.blockEntry, .key, .value, .blockEnd] true false
      return item :: (← looseItems fuel)
    else return []

def blockEntries (fuel : Nat) : Reading (List (Node × Node)) :=
  match fuel with
  | 0 => throw .shape
  | fuel + 1 => do
    let stops := [Token.key, .value, .blockEnd]
    if ← skipIf .key then
      let k ← nodeUnless fuel stops true true
      let v ← if ← skipIf .value then nodeUnless fuel stops true true else pure absent
      return (k, v) :: (← blockEntries fuel)
    else
      require .blockEnd
      return []

/-- The items of a sequence in brackets. An item may be a single entry of a mapping. -/
def flowItems (fuel : Nat) (first : Bool) : Reading (List Node) :=
  match fuel with
  | 0 => throw .shape
  | fuel + 1 => do
    if ← skipIf .flowSequenceEnd then return []
    else
      if !first then require .flowEntry
      if ← skipIf .key then
        let k ← nodeUnless fuel [.value, .flowEntry, .flowSequenceEnd] false false
        let v ← if ← skipIf .value then nodeUnless fuel [.flowEntry, .flowSequenceEnd] false false
          else pure absent
        return .mapping .map [(k, v)] :: (← flowItems fuel false)
      else if ← skipIf .flowSequenceEnd then return []
      else
        let item ← node fuel false false
        return item :: (← flowItems fuel false)

def flowEntries (fuel : Nat) (first : Bool) : Reading (List (Node × Node)) :=
  match fuel with
  | 0 => throw .shape
  | fuel + 1 => do
    if ← skipIf .flowMappingEnd then return []
    else
      if !first then require .flowEntry
      if ← skipIf .key then
        let k ← nodeUnless fuel [.value, .flowEntry, .flowMappingEnd] false false
        let v ← if ← skipIf .value then nodeUnless fuel [.flowEntry, .flowMappingEnd] false false
          else pure absent
        return (k, v) :: (← flowEntries fuel false)
      else if ← skipIf .flowMappingEnd then return []
      else
        let k ← node fuel false false
        return (k, absent) :: (← flowEntries fuel false)

end

/-! ## Documents -/

/-- What handles stand for where no directive says otherwise. -/
def defaultHandles : List (String × String) := [("!", "!"), ("!!", Tag.start)]

/-- Reads the directives of a document: at most one version, which must be the first, and each handle
once. -/
def directives : Nat → Bool → List (String × String) → Reading (List (String × String))
  | 0, _, _ => throw .shape
  | fuel + 1, versioned, handles => do
    match ← peek with
    | .directive (.version major _) =>
      skip
      if versioned || major != 1 then throw .shape
      directives fuel true handles
    | .directive (.handle name start) =>
      skip
      if (handles.lookup name).isSome then throw .shape
      directives fuel versioned (handles ++ [(name, start)])
    | .directive .unknown =>
      skip
      directives fuel versioned handles
    | _ => return handles ++ defaultHandles

def skipEnds : Nat → Reading Unit
  | 0 => pure ()
  | fuel + 1 => do if ← skipIf .documentEnd then skipEnds fuel

/-- The start of a document with its directives; tells whether there is one. -/
def startDocument (fuel : Nat) : Reading Bool := do
  skipEnds fuel
  if (← peek) = .textEnd then return false
  else
    let handles ← directives fuel false []
    modify fun r => { r with handles := handles }
    require .documentStart
    return true

def document (fuel : Nat) : Reading (Option Node) := do
  let root ←
    match ← peek with
    | .textEnd => pure none
    | .directive _ | .documentStart =>
      if ← startDocument fuel then
        match ← peek with
        | .directive _ | .documentStart | .documentEnd | .textEnd => pure (some absent)
        | _ => some <$> node fuel true false
      else pure none
    | _ =>
      modify fun r => { r with handles := defaultHandles }
      some <$> node fuel true false
  if root.isSome then
    if ← startDocument fuel then throw .reference
  return root

def ofTokens (tokens : List Token) : Except DocumentFault (Option Node) :=
  (document (4 * tokens.length + 8) |>.run { tokens := tokens }).map (·.1)

end Node
end Criteria.Yaml
