import Criteria.Toml.Table

/-!
# Reading TOML

`Toml.read?` reads a whole document. A statement is a header, which declares a table, or a key with its
value; it stands alone on its line, with a comment at most.
-/

namespace Criteria.Toml

/-! ## Comments -/

/-- Drops a comment up to the end of its line; control characters are refused. -/
def skipComment? : List Char → Option (List Char)
  | '#' :: rest =>
    let body := rest.takeWhile (· ≠ '\n')
    if body.any (isIllegal false) then none else some (rest.dropWhile (· ≠ '\n'))
  | cs => some cs

def skipGaps? : Nat → List Char → Option (List Char)
  | 0, cs => some cs
  | fuel + 1, cs => do
    let rest ← skipComment? (cs.dropWhile isWsOrLine)
    if rest.length = cs.length then some rest else skipGaps? fuel rest

def skipAllGaps? (cs : List Char) : Option (List Char) := skipGaps? (cs.length + 1) cs

/-! ## Values -/

/-- Sets a dotted key of a table written in one piece. -/
def addInline (es : Entries) (closed : List Path) (key : Path) (v : Value) : Option Entries := do
  if closed.any fun p => p.isPrefixOf key then none
  else
    let last ← key.getLast?
    updateAt false (addEntry last v) key.dropLast es

mutual

def readValue? : Nat → List Char → Option (Value × List Char)
  | 0, _ => none
  | fuel + 1, cs =>
    match cs with
    | '[' :: rest => do
      match ← skipAllGaps? rest with
      | ']' :: rest => some (.list [], rest)
      | rest => do
        let (items, rest) ← readItems? fuel rest
        some (.list items, rest)
    | '\x7b' :: rest =>
      match skipWs rest with
      | '\x7d' :: rest => some (.map [], rest)
      | rest => do
        let (es, rest) ← readInline? fuel [] [] rest
        some (.map es, rest)
    | cs =>
      if cs.head? = some '"' ∨ cs.head? = some '\'' then
        (readText? cs).map fun r => (.str r.1, r.2)
      else readScalar? cs

def readItems? : Nat → List Char → Option (List Value × List Char)
  | 0, _ => none
  | fuel + 1, cs => do
    let (item, rest) ← readValue? fuel cs
    match ← skipAllGaps? rest with
    | ']' :: rest => some ([item], rest)
    | ',' :: rest => do
      match ← skipAllGaps? rest with
      | ']' :: rest => some ([item], rest)
      | rest => do
        let (items, rest) ← readItems? fuel rest
        some (item :: items, rest)
    | _ => none

def readInline? : Nat → Entries → List Path → List Char → Option (Entries × List Char)
  | 0, _, _, _ => none
  | fuel + 1, es, closed, cs => do
    let (key, v, rest) ← readPair? fuel cs
    let es ← addInline es closed key v
    match skipWs rest with
    | '\x7d' :: rest => some (es, rest)
    | ',' :: rest =>
      readInline? fuel es (if isCollection v then key :: closed else closed) (skipWs rest)
    | _ => none

def readPair? : Nat → List Char → Option (Path × Value × List Char)
  | 0, _ => none
  | fuel + 1, cs => do
    let (key, rest) ← readKey? cs
    let rest ← expect? '=' rest
    let (v, rest) ← readValue? fuel (skipWs rest)
    some (key, v, rest)

end

/-! ## Statements -/

def readStatement? (d : Document) (cs : List Char) : Option (Document × List Char) := do
  match cs with
  | '[' :: '[' :: rest => do
    let (key, rest) ← readKey? (skipWs rest)
    let d ← d.addArrayTable key
    let rest ← expect? ']' rest
    let rest ← expect? ']' rest
    some (d, rest)
  | '[' :: rest => do
    let (key, rest) ← readKey? (skipWs rest)
    let d ← d.addTable key
    let rest ← expect? ']' rest
    some (d, rest)
  | '#' :: _ => some (d, cs)
  | cs => do
    let (key, v, rest) ← readPair? (4 * cs.length + 4) cs
    let d ← d.addKey key v
    some (d, rest)

/-- The statements of a document, line by line. -/
def readStatements? : Nat → Document → List Char → Option Document
  | 0, _, _ => none
  | fuel + 1, d, cs =>
    match skipWs cs with
    | [] => some d
    | '\n' :: rest => readStatements? fuel d rest
    | cs => do
      let (d, rest) ← readStatement? d cs
      match ← skipComment? (skipWs rest) with
      | [] => some d
      | '\n' :: rest => readStatements? fuel d rest
      | _ => none

/-- A line feed for every carriage return with a line feed. -/
def unifyLines : List Char → List Char
  | '\r' :: '\n' :: rest => '\n' :: unifyLines rest
  | c :: rest => c :: unifyLines rest
  | [] => []

/-- The entries of a document; none if it breaks a rule. -/
def read? (text : String) : Option Entries :=
  let cs := unifyLines text.toList
  (readStatements? (cs.length + 1) {} cs).map (·.entries)

end Criteria.Toml
