import Criteria.Number.Reading

/-!
# Texts and keys of TOML

Texts stand between quotation marks, which resolve escapes, or between apostrophes, which do not; three
of either enclose a text of several lines. A key is a row of parts with dots between them, each a bare
word or a text of one line.
-/

namespace Criteria.Toml

/-! ## Characters -/

def isWs (c : Char) : Bool := c == ' ' || c == '\t'

def isWsOrLine (c : Char) : Bool := isWs c || c == '\n'

def skipWs (cs : List Char) : List Char := cs.dropWhile isWs

/-- Control characters besides the tab, and besides line ends where several lines are allowed. -/
def isIllegal (lines : Bool) (c : Char) : Bool :=
  (c.toNat < 32 || c.toNat == 127) && c != '\t' && !(lines && c == '\n')

def isBare (c : Char) : Bool := c.isAlphanum || c == '-' || c == '_'

/-! ## Escapes -/

def hexDigit? (c : Char) : Option Nat :=
  if c.isDigit then some (c.toNat - '0'.toNat)
  else
    let l := c.toLower
    if 'a' ≤ l ∧ l ≤ 'f' then some (l.toNat - 'a'.toNat + 10) else none

def hexValue? (cs : List Char) : Option Nat :=
  cs.foldlM (fun n c => (hexDigit? c).map (16 * n + ·)) 0

def readCode? (width : Nat) (cs : List Char) : Option (List Char × List Char) := do
  let digits := cs.take width
  if digits.length ≠ width then none
  else
    let n ← hexValue? digits
    if n.isValidChar then some ([Char.ofNat n], cs.drop width) else none

def escapes : List (Char × Char) :=
  [('b', '\x08'), ('t', '\t'), ('n', '\n'), ('f', '\x0c'), ('r', '\r'), ('"', '"'), ('\\', '\\')]

/-- What stands for the escape behind a backslash, and the rest. In a text of several lines a backslash
at the end of a line swallows the line end and all blanks after it. -/
def readEscape? (lines : Bool) : List Char → Option (List Char × List Char)
  | [] => none
  | c :: rest =>
    if lines && isWsOrLine c then
      if c = '\n' then some ([], rest.dropWhile isWsOrLine)
      else
        match skipWs rest with
        | [] => some ([], [])
        | d :: behind => if d = '\n' then some ([], behind.dropWhile isWsOrLine) else none
    else if c = 'u' then readCode? 4 rest
    else if c = 'U' then readCode? 8 rest
    else (escapes.lookup c).map fun d => ([d], rest)

/-! ## Texts -/

def readQuoted? (lines : Bool) : Nat → List Char → Option (List Char × List Char)
  | 0, _ | _, [] => none
  | fuel + 1, c :: rest =>
    if c = '"' then
      if !lines then some ([], rest)
      else
        match rest with
        | '"' :: '"' :: behind => some ([], behind)
        | rest => (readQuoted? lines fuel rest).map fun r => (c :: r.1, r.2)
    else if c = '\\' then do
      let (text, rest) ← readEscape? lines rest
      let (more, rest) ← readQuoted? lines fuel rest
      some (text ++ more, rest)
    else if isIllegal lines c then none
    else (readQuoted? lines fuel rest).map fun r => (c :: r.1, r.2)

def readLiteral? (lines : Bool) : List Char → Option (List Char × List Char)
  | [] => none
  | c :: rest =>
    if c = '\'' then
      if !lines then some ([], rest)
      else
        match rest with
        | '\'' :: '\'' :: behind => some ([], behind)
        | rest => (readLiteral? lines rest).map fun r => (c :: r.1, r.2)
    else if isIllegal lines c then none
    else (readLiteral? lines rest).map fun r => (c :: r.1, r.2)

/-- Up to two marks before the closing three belong to the text. -/
def takeExtraMarks (mark : Char) (text rest : List Char) : List Char × List Char :=
  match rest with
  | a :: b :: behind =>
    if a = mark then
      if b = mark then (text ++ [mark, mark], behind) else (text ++ [mark], b :: behind)
    else (text, rest)
  | [a] => if a = mark then (text ++ [mark], []) else (text, rest)
  | [] => (text, [])

/-- A line end at the start of a text of several lines does not belong to it. -/
def dropFirstLine : List Char → List Char
  | '\n' :: rest => rest
  | cs => cs

def readLine? : List Char → Option (String × List Char)
  | '"' :: rest => (readQuoted? false rest.length rest).map fun r => (String.ofList r.1, r.2)
  | '\'' :: rest => (readLiteral? false rest).map fun r => (String.ofList r.1, r.2)
  | _ => none

def readText? : List Char → Option (String × List Char)
  | '"' :: '"' :: '"' :: rest => do
    let body := dropFirstLine rest
    let (text, rest) ← readQuoted? true body.length body
    let (text, rest) := takeExtraMarks '"' text rest
    some (String.ofList text, rest)
  | '\'' :: '\'' :: '\'' :: rest => do
    let (text, rest) ← readLiteral? true (dropFirstLine rest)
    let (text, rest) := takeExtraMarks '\'' text rest
    some (String.ofList text, rest)
  | cs => readLine? cs

/-! ## Keys -/

def readKeyPart? (cs : List Char) : Option (String × List Char) :=
  match cs.takeWhile isBare with
  | [] => readLine? cs
  | word => some (String.ofList word, cs.dropWhile isBare)

def readKeyParts? : Nat → List Char → Option (List String × List Char)
  | 0, _ => none
  | fuel + 1, cs => do
    let (part, rest) ← readKeyPart? cs
    match skipWs rest with
    | '.' :: rest => do
      let (parts, rest) ← readKeyParts? fuel (skipWs rest)
      some (part :: parts, rest)
    | rest => some ([part], rest)

def readKey? (cs : List Char) : Option (List String × List Char) := readKeyParts? (cs.length + 1) cs

end Criteria.Toml
