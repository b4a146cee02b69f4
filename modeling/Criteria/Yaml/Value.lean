import Criteria.Number.Reading
import Criteria.Settings.Layer
import Criteria.Text.Base64
import Criteria.Text.Casing
import Criteria.Yaml.Node

/-!
# Values of YAML

`Node.value` gives the value that a node stands for: texts are read as their tags say, mappings take over
the entries under their merge keys, and the tags for sets and ordered maps change what a collection
becomes. The content of a collection is looked at after everything around it, so of several faults the one
nearest to the root counts, and of equally near ones the first.
-/

namespace Criteria.Yaml

/-! ## Outcomes -/

/-- An outcome that a fault may take the place of, with the depth at which it was met. -/
abbrev Outcome (α : Type) := Except (Nat × Fault) α

namespace Outcome

def fail {α : Type} (f : Fault) : Outcome α := .error (0, f)

def misfit {α : Type} : Outcome α := fail (.document .tag)

def inside {α : Type} (o : Outcome α) : Outcome α := o.mapError fun e => (e.1 + 1, e.2)

def both {α β γ : Type} (f : α → β → γ) (x : Outcome α) (y : Outcome β) : Outcome γ :=
  match x, y with
  | .ok a, .ok b => .ok (f a b)
  | .error e, .ok _ => .error e
  | .ok _, .error e => .error e
  | .error d, .error e => .error (if e.1 < d.1 then e else d)

def ofExcept {α : Type} (o : Except Fault α) : Outcome α := o.mapError fun f => (0, f)

end Outcome

/-! ## Texts as their tags say -/

namespace Scalar

def unsigned (text : String) : Except Fault (Bool × String) :=
  match text.toList.filter (· ≠ '_') with
  | [] => .error .emptyNumber
  | c :: rest =>
    if c = '-' then .ok (true, String.ofList rest)
    else if c = '+' then .ok (false, String.ofList rest)
    else .ok (false, String.ofList (c :: rest))

def wholeIn (base : Nat) (text : String) : Except Fault Int :=
  match if base = 10 then Number.readInt? text else Number.readIntIn? base text with
  | some n => .ok n
  | none => .error (.notANumber base text)

def real (text : String) : Except Fault Binary64 :=
  match Number.readFloat? text with
  | some x => .ok x
  | none => .error (.notFloatLiteral text)

def sixtieths (text : String) : List String := (Text.splitAt ':' text.toList).map String.ofList

def whole (text : String) : Except Fault Int := do
  let (negative, body) ← unsigned text
  let n ←
    match body.toList with
    | [] => throw .emptyNumber
    | ['0'] => pure 0
    | '0' :: 'b' :: digits => wholeIn 2 (String.ofList digits)
    | '0' :: 'x' :: digits => wholeIn 16 (String.ofList digits)
    | '0' :: _ => wholeIn 8 body
    | cs =>
      if cs.contains ':' then do
        let parts ← (sixtieths body).mapM (wholeIn 10)
        pure (parts.foldl (fun n d => 60 * n + d) 0)
      else wholeIn 10 body
  return if negative then -n else n

/-- Parts in base sixty summed up from the right; `unit` is what one of the first part stands for. -/
def sumReal (unit : Int) (sum : Binary64) : List Binary64 → Binary64
  | [] => sum
  | x :: rest => sumReal (60 * unit) (sum.add (x.mul (Binary64.ofInt unit))) rest

def decimal (text : String) : Except Fault Binary64 := do
  let (negative, body) ← unsigned (Text.toLower text)
  let sign (x : Binary64) : Binary64 := if negative then x.neg else x
  if body = ".inf" then return .infinite negative
  else if body = ".nan" then return .nan
  else if body.toList.contains ':' then do
    let parts ← (sixtieths body).mapM real
    return sign (sumReal 1 (Binary64.zero false) parts.reverse)
  else return sign (← real body)

def truth (text : String) : Except Fault Bool :=
  let word := Text.toLower text
  match Tag.truthWords.lookup word with
  | some b => .ok b
  | none => .error (.unknownWord word)

def moment (text : String) : Except Fault Value :=
  match MomentText.read? text.toList with
  | some m => m.value
  | none => .error (.noAttribute "NoneType" "groupdict")

def content (text : String) : Except Fault (List UInt8) :=
  match if text.toList.all (·.toNat < 128) then Text.base64? text else none with
  | some bytes => .ok bytes
  | none => .error (.document .tag)

def value (tag : Tag) (text : String) : Except Fault Value :=
  match tag with
  | .null => .ok .null
  | .bool => (truth text).map .bool
  | .int => (whole text).map .int
  | .float => (decimal text).map .float
  | .binary => (content text).map .bytes
  | .timestamp => moment text
  | .str => .ok (.str text)
  | _ => .error (.document .tag)

end Scalar

/-! ## Values of nodes -/

def Tag.isCollection : Tag → Bool
  | .seq | .map | .set | .omap | .pairs => true
  | _ => false

def setOf (items : List Value) : Value :=
  .object false Value.setName
    (if items.isEmpty then Value.emptySetText
    else "\x7b" ++ ", ".intercalate (Value.printedAll items) ++ "\x7d")

/-- An entry of a mapping. Its key must not be a collection that can change, whatever is in it. -/
def entryOf (k v : Outcome Value) : Outcome (Value × Value) :=
  match k with
  | .ok k => if k.isKey then v.map (k, ·) else Outcome.misfit
  | .error (0, f) => Outcome.fail f
  | .error (_ + 1, _) => Outcome.misfit

/-- A mapping of entries, of which later ones take the place of earlier ones. -/
def ofEntries (es : Entries) : Entries :=
  es.foldl (fun done e => Value.insertEntry done e.1 e.2) []

namespace Node

mutual

/-- The text of a node where a text is wanted: a mapping stands for its default value. -/
def textOf : Node → Outcome String
  | .scalar _ text => .ok text
  | .sequence _ _ => Outcome.misfit
  | .mapping _ es => defaultText es

def defaultText : List (Node × Node) → Outcome String
  | [] => Outcome.misfit
  | (k, v) :: rest => if k.tag = .value then textOf v else defaultText rest

end

mutual

def valueOf : Node → Outcome Value
  | .scalar tag text =>
    if tag.isCollection then Outcome.inside Outcome.misfit
    else Outcome.ofExcept (Scalar.value tag text)
  | .sequence tag items =>
    match tag with
    | .seq => Outcome.inside ((valuesOf items).map .list)
    | .omap | .pairs => Outcome.inside ((pairsOf items).map .list)
    | .map | .set => Outcome.inside Outcome.misfit
    | _ => Outcome.misfit
  | .mapping tag es =>
    let entries := Outcome.both (fun m o => ofEntries (m ++ o)) (mergedOf es) (ownOf es)
    match tag with
    | .map => Outcome.inside (entries.map .map)
    | .set => Outcome.inside (entries.map fun es => setOf (es.map (·.1)))
    | .seq | .omap | .pairs => Outcome.inside Outcome.misfit
    | tag => do Outcome.ofExcept (Scalar.value tag (← defaultText es))

def valuesOf : List Node → Outcome (List Value)
  | [] => .ok []
  | n :: rest => Outcome.both List.cons (valueOf n) (valuesOf rest)

def pairsOf : List Node → Outcome (List Value)
  | [] => .ok []
  | .mapping _ [(k, v)] :: rest =>
    Outcome.both List.cons (Outcome.both (fun k v => .tuple [k, v]) (valueOf k) (valueOf v))
      (pairsOf rest)
  | _ :: _ => Outcome.misfit

/-- The entries of a mapping itself. Under the default mark a key is a text. -/
def ownOf : List (Node × Node) → Outcome Entries
  | [] => .ok []
  | (k, v) :: rest =>
    if k.tag = .merge then ownOf rest
    else
      let key := if k.tag = .value then (textOf k).map .str else valueOf k
      Outcome.both List.cons (entryOf key (valueOf v)) (ownOf rest)

/-- The entries that a mapping takes over: those of mappings under merge keys. -/
def mergedOf : List (Node × Node) → Outcome Entries
  | [] => .ok []
  | (k, v) :: rest =>
    if k.tag = .merge then
      let taken :=
        match v with
        | .mapping _ es => Outcome.both List.append (mergedOf es) (ownOf es)
        | .sequence _ items => mergedAllOf items
        | .scalar _ _ => Outcome.misfit
      Outcome.both List.append taken (mergedOf rest)
    else mergedOf rest

/-- The entries of several mappings; those of earlier mappings come last and so win. -/
def mergedAllOf : List Node → Outcome Entries
  | [] => .ok []
  | .mapping _ es :: rest =>
    Outcome.both (fun front behind => behind ++ front)
      (Outcome.both List.append (mergedOf es) (ownOf es)) (mergedAllOf rest)
  | _ :: _ => Outcome.misfit

end

/-- The value of a document's root. -/
def value (n : Node) : Except Fault Value := (valueOf n).mapError (·.2)

end Node
end Criteria.Yaml
