import Criteria.Settings.Layer
import Criteria.Toml.Scalar

/-!
# Tables of TOML

A document is a nest of tables that grows statement by statement. Marks keep tables from being declared
twice: a path is *opened* once a header or a dotted key has declared it, and *sealed*, with everything
below it, once it holds a value that is written in one piece.
-/

namespace Criteria.Toml

abbrev Path := List String

/-! ## Nests -/

/-- Changes the table at a path, making the tables on the way. Where the path meets an array, it goes on
in the last table of it if `intoArrays` says so; where it meets anything else, it is refused. -/
def updateAt (intoArrays : Bool) (f : Entries → Option Entries) : Path → Entries → Option Entries
  | [], es => f es
  | k :: rest, es => do
    let inner ←
      match Value.lookupKey es k with
      | none => (updateAt intoArrays f rest []).map Value.map
      | some (.map inner) => (updateAt intoArrays f rest inner).map Value.map
      | some (.list items) =>
        match items.getLast?, intoArrays with
        | some (.map inner), true =>
          (updateAt intoArrays f rest inner).map fun inner =>
            Value.list (items.dropLast ++ [.map inner])
        | _, _ => none
      | some _ => none
    some (Value.insertEntry es (.str k) inner)

def addEntry (k : String) (v : Value) (es : Entries) : Option Entries :=
  if (Value.lookupKey es k).isSome then none else some (es ++ [(.str k, v)])

def appendTable (k : String) (es : Entries) : Option Entries :=
  match Value.lookupKey es k with
  | none => some (es ++ [(.str k, .list [.map []])])
  | some (.list items) => some (Value.insertEntry es (.str k) (.list (items ++ [.map []])))
  | some _ => none

/-! ## Marks -/

structure Marks where
  opened : List Path := []
  closed : List Path := []
  /-- Paths that dotted keys have declared; they are opened at the next header. -/
  pending : List Path := []

namespace Marks

def isOpened (m : Marks) (p : Path) : Bool := m.opened.contains p

def isSealed (m : Marks) (p : Path) : Bool := m.closed.any fun s => s.isPrefixOf p

def openPath (m : Marks) (p : Path) : Marks := { m with opened := p :: m.opened }

def sealPath (m : Marks) (p : Path) : Marks := { m with closed := p :: m.closed }

def await (m : Marks) (p : Path) : Marks := { m with pending := p :: m.pending }

/-- Opens the paths that wait for it. -/
def settle (m : Marks) : Marks := { m with opened := m.pending ++ m.opened, pending := [] }

def forget (m : Marks) (p : Path) : Marks :=
  { m with
    opened := m.opened.filter fun q => !p.isPrefixOf q
    closed := m.closed.filter fun q => !p.isPrefixOf q }

end Marks

/-! ## Documents -/

structure Document where
  entries : Entries := []
  marks : Marks := {}
  /-- The table that the last header has declared. -/
  header : Path := []

def isCollection : Value → Bool
  | .map _ | .list _ => true
  | _ => false

namespace Document

def addTable (d : Document) (p : Path) : Option Document := do
  let marks := d.marks.settle
  if marks.isOpened p || marks.isSealed p then none
  else
    let entries ← updateAt true some p d.entries
    some ⟨entries, marks.openPath p, p⟩

def addArrayTable (d : Document) (p : Path) : Option Document := do
  let marks := d.marks.settle
  if marks.isSealed p then none
  else
    let last ← p.getLast?
    let entries ← updateAt true (appendTable last) p.dropLast d.entries
    some ⟨entries, (marks.forget p).openPath p, p⟩

/-- The proper beginnings of a key, as paths below a header. -/
def beginnings (header key : Path) : List Path :=
  (List.range (key.length - 1)).map fun i => header ++ key.take (i + 1)

def addKey (d : Document) (key : Path) (v : Value) : Option Document := do
  let before := beginnings d.header key
  if before.any d.marks.isOpened then none
  else
    let parent := d.header ++ key.dropLast
    if parent ≠ [] ∧ d.marks.isSealed parent then none
    else
      let last ← key.getLast?
      let entries ← updateAt true (addEntry last v) parent d.entries
      let marks := before.foldl Marks.await d.marks
      some { d with
        entries := entries
        marks := if isCollection v then marks.sealPath (d.header ++ key) else marks }

end Document
end Criteria.Toml
