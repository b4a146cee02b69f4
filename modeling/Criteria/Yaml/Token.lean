import Criteria.Yaml.Text

/-!
# Tokens of YAML

`Token.ofText` splits a text into tokens. Indentation becomes tokens of its own, and a key is marked where
it begins, although it is known to be one only when its colon is met: a place is kept free in front of
everything that could be a key, and filled or dropped later. Where the text cannot be split any further
stands the token `broken`, in front of a key that is still in doubt.
-/

namespace Criteria.Yaml

inductive Directive where
  | version (major minor : Nat)
  /-- A handle and the start of tags that it stands for. -/
  | handle (name start : String)
  | unknown
  deriving DecidableEq, Repr

inductive Token where
  | directive (d : Directive)
  | documentStart
  | documentEnd
  | blockSequenceStart
  | blockMappingStart
  | blockEnd
  | flowSequenceStart
  | flowSequenceEnd
  | flowMappingStart
  | flowMappingEnd
  | blockEntry
  | flowEntry
  | key
  | value
  | reference (name : String)
  | anchor (name : String)
  /-- A handle, if there is one, and what follows it. -/
  | tag (handle : Option String) (suffix : String)
  | scalar (text : String) (plain : Bool)
  | textEnd
  /-- Nothing can be read from here on. -/
  | broken
  deriving DecidableEq, Repr

/-! ## The scanner -/

/-- A token, or a place kept free for the tokens that mark a key. -/
inductive Slot where
  | token (t : Token)
  | free (n : Nat)

/-- Something that is a key if a colon follows it on its line. -/
structure PossibleKey where
  /-- How many brackets it stands in. -/
  level : Nat
  /-- The place kept free in front of it. -/
  slot : Nat
  /-- Whether it stands where only a key can stand. -/
  required : Bool
  index : Nat
  line : Nat
  column : Nat

structure Scanner where
  cursor : Cursor
  /-- What has been read, backwards. -/
  slots : List Slot := []
  /-- The tokens that have been put into free places. -/
  filled : List (Nat × List Token) := []
  nextSlot : Nat := 0
  /-- The column of the innermost block, and those of the blocks around it. -/
  indent : Int := -1
  outer : List Int := []
  /-- How many brackets are open. -/
  level : Nat := 0
  /-- Whether a key can stand here. -/
  keyAllowed : Bool := true
  keys : List PossibleKey := []
  done : Bool := false

/-- A step of the scanner; none if the text breaks a rule. -/
abbrev Scan := StateT Scanner Option

namespace Scanner

def fail {α : Type} : Scan α := StateT.lift none

def need (b : Bool) : Scan Unit := if b then pure () else fail

def emit (t : Token) : Scan Unit := modify fun s => { s with slots := .token t :: s.slots }

def moveTo (c : Cursor) : Scan Unit := modify fun s => { s with cursor := c }

def allowKey (b : Bool) : Scan Unit := modify fun s => { s with keyAllowed := b }

/-- Emits a token for the next `n` characters. -/
def mark (t : Token) (n : Nat) : Scan Unit :=
  modify fun s => { s with slots := .token t :: s.slots, cursor := s.cursor.advance n }

/-! ### Keys in doubt -/

def keyLimit : Nat := 1024

/-- Gives up the keys whose line is over; one that is required must not be given up. -/
def dropStale : Scan Unit := do
  let s ← get
  let stale (k : PossibleKey) : Bool :=
    k.line != s.cursor.line || decide (keyLimit < s.cursor.index - k.index)
  need (!s.keys.any fun k => stale k && k.required)
  set { s with keys := s.keys.filter fun k => !stale k }

/-- Gives up the key in doubt at the current level. -/
def dropKey : Scan Unit := do
  let s ← get
  need (!s.keys.any fun k => k.level == s.level && k.required)
  set { s with keys := s.keys.filter fun k => k.level != s.level }

/-- Keeps a place free in front of something that can be a key. -/
def keepKey : Scan Unit := do
  if (← get).keyAllowed then
    dropKey
    modify fun s =>
      let k : PossibleKey :=
        { level := s.level
          slot := s.nextSlot
          required := s.level == 0 && s.indent == (s.cursor.column : Int)
          index := s.cursor.index
          line := s.cursor.line
          column := s.cursor.column }
      { s with
        keys := k :: s.keys, slots := .free s.nextSlot :: s.slots, nextSlot := s.nextSlot + 1 }

/-! ### Indentation -/

def closeBlocks (column : Int) : List Int → Scanner → Scanner
  | outer, s =>
    if s.level = 0 ∧ column < s.indent then
      match outer with
      | [] => s
      | o :: rest =>
        closeBlocks column rest { s with indent := o, outer := rest, slots := .token .blockEnd :: s.slots }
    else s

def unwind (column : Int) : Scan Unit := modify fun s => closeBlocks column s.outer s

/-- Opens a block at a column if it is indented further; tells whether it is. -/
def openBlock (column : Nat) : Scan Bool := do
  let s ← get
  if s.indent < (column : Int) then
    set { s with indent := (column : Int), outer := s.indent :: s.outer }
    return true
  else return false

/-! ### Separators -/

/-- Behind spaces, comments and line ends. A new line outside brackets can start with a key. -/
def skipGaps : Nat → Bool → Cursor → Bool × Cursor
  | 0, crossed, c => (crossed, c)
  | fuel + 1, crossed, c =>
    let c := c.skipSpaces.skipComment
    if isBreak c.peek then skipGaps fuel true c.forward else (crossed, c)

def toNextToken : Scan Unit := modify fun s =>
  let c := if s.cursor.index = 0 ∧ s.cursor.peek = '\uFEFF' then s.cursor.forward else s.cursor
  let (crossed, c) := skipGaps (c.rest.length + 1) false c
  { s with cursor := c, keyAllowed := s.keyAllowed || (crossed && s.level == 0) }

/-! ### Structure -/

def takeTextEnd : Scan Unit := do
  unwind (-1)
  dropKey
  modify fun s => { s with keyAllowed := false, keys := [], done := true }
  emit .textEnd

def takeSeparator (t : Token) : Scan Unit := do
  unwind (-1)
  dropKey
  allowKey false
  mark t 3

def takeOpening (t : Token) : Scan Unit := do
  keepKey
  modify fun s => { s with level := s.level + 1, keyAllowed := true }
  mark t 1

/-- A closing bracket. One that nothing has opened ends the scan, as no document goes on behind it. -/
def takeClosing (t : Token) : Scan Unit := do
  dropKey
  modify fun s => { s with done := s.level == 0, level := s.level - 1, keyAllowed := false }
  mark t 1

def takeFlowEntry : Scan Unit := do
  allowKey true
  dropKey
  mark .flowEntry 1

def takeBlockEntry : Scan Unit := do
  let s ← get
  if s.level = 0 then
    need s.keyAllowed
    if ← openBlock s.cursor.column then emit .blockSequenceStart
  allowKey true
  dropKey
  mark .blockEntry 1

def takeKey : Scan Unit := do
  let s ← get
  if s.level = 0 then
    need s.keyAllowed
    if ← openBlock s.cursor.column then emit .blockMappingStart
  allowKey (s.level == 0)
  dropKey
  mark .key 1

/-- A colon: it makes a key of what is in doubt at its level, or stands for a value without a key. -/
def takeValue : Scan Unit := do
  let s ← get
  match s.keys.find? fun k => k.level == s.level with
  | some k =>
    modify fun s => { s with keys := s.keys.filter fun k => k.level != s.level }
    let opens ← if s.level = 0 then openBlock k.column else pure false
    let tokens := if opens then [.blockMappingStart, .key] else [Token.key]
    modify fun s => { s with filled := (k.slot, tokens) :: s.filled, keyAllowed := false }
  | none =>
    if s.level = 0 then
      need s.keyAllowed
      if ← openBlock s.cursor.column then emit .blockMappingStart
    allowKey (s.level == 0)
    dropKey
  mark .value 1

/-! ### Names -/

def takeName (t : String → Token) : Scan Unit := do
  keepKey
  allowKey false
  let c := (← get).cursor.forward
  let name := c.run isNameChar
  let c := c.skip isNameChar
  need (!name.isEmpty && (isGap c.peek || ['?', ':', ',', ']', '\x7d', '%', '@', '\x60'].contains c.peek))
  moveTo c
  emit (t (String.ofList name))

/-! ### Tags and directives -/

def uriMarks : List Char :=
  ['-', ';', '/', '?', ':', '@', '&', '=', '+', '$', ',', '_', '.', '!', '~', '*', '\'', '(', ')',
    '[', ']']

def percentBytes? : Nat → Cursor → Option (List UInt8 × Cursor)
  | 0, c => some ([], c)
  | fuel + 1, c =>
    if c.peek = '%' then do
      let n ← hexValue? 2 c.forward
      let (more, last) ← percentBytes? fuel (c.advance 3)
      some (UInt8.ofNat n :: more, last)
    else some ([], c)

def uri? : Nat → Cursor → Option (List Char × Cursor)
  | 0, c => some ([], c)
  | fuel + 1, c =>
    if c.peek = '%' then do
      let (bytes, c) ← percentBytes? fuel c
      let text ← String.fromUTF8? (ByteArray.mk bytes.toArray)
      let (more, last) ← uri? fuel c
      some (text.toList ++ more, last)
    else if c.peek.isAlphanum || uriMarks.contains c.peek then do
      let (more, last) ← uri? fuel c.forward
      some (c.peek :: more, last)
    else some ([], c)

def uriText? (c : Cursor) : Option (String × Cursor) := do
  let (text, last) ← uri? (c.rest.length + 1) c
  if text.isEmpty then none else some (String.ofList text, last)

def handle? (c : Cursor) : Option (String × Cursor) :=
  if c.peek ≠ '!' then none
  else
    let next := c.forward
    if next.peek = ' ' then some ("!", next)
    else
      let name := next.run isNameChar
      let c := next.skip isNameChar
      if c.peek = '!' then some (String.ofList ('!' :: name ++ ['!']), c.forward) else none

def tag? (c : Cursor) : Option (Option String × String × Cursor) := do
  let next := c.forward
  if next.peek = '<' then
    let (suffix, c) ← uriText? next.forward
    if c.peek = '>' then some (none, suffix, c.forward) else none
  else if isGap next.peek then some (none, "!", next)
  else
    let word := next.run fun ch => !(ch == ' ' || isBreak ch)
    let (handle, c) ← if word.contains '!' then handle? c else some ("!", next)
    let (suffix, c) ← uriText? c
    some (some handle, suffix, c)

def takeTag : Scan Unit := do
  keepKey
  allowKey false
  let (handle, suffix, c) ← StateT.lift (tag? (← get).cursor)
  need (c.peek == ' ' || isLineEnd c.peek)
  moveTo c
  emit (.tag handle suffix)

def number? (c : Cursor) : Option (Nat × Cursor) :=
  let digits := c.run Char.isDigit
  if digits.isEmpty then none
  else some (digits.foldl (fun n d => 10 * n + (d.toNat - '0'.toNat)) 0, c.skip Char.isDigit)

def directive? (name : String) (c : Cursor) : Option (Directive × Cursor) := do
  if name = "YAML" then
    let (major, c) ← number? c.skipSpaces
    if c.peek ≠ '.' then none
    else
      let (minor, c) ← number? c.forward
      if c.peek = ' ' || isLineEnd c.peek then some (.version major minor, c) else none
  else if name = "TAG" then
    let (handle, c) ← handle? c.skipSpaces
    if c.peek ≠ ' ' then none
    else
      let (start, c) ← uriText? c.skipSpaces
      if c.peek = ' ' || isLineEnd c.peek then some (.handle handle start, c) else none
  else some (.unknown, c.skip fun ch => !isBreak ch)

def takeDirective : Scan Unit := do
  unwind (-1)
  dropKey
  allowKey false
  let c := (← get).cursor.forward
  let name := c.run isNameChar
  let c := c.skip isNameChar
  need (!name.isEmpty && (c.peek == ' ' || isLineEnd c.peek))
  let (d, c) ← StateT.lift (directive? (String.ofList name) c)
  let c ← StateT.lift c.endLine?
  moveTo c
  emit (.directive d)

/-! ### Texts -/

def takeBlockText (folded : Bool) : Scan Unit := do
  allowKey true
  dropKey
  let s ← get
  let (text, c) ← StateT.lift (blockText? folded s.indent s.cursor)
  moveTo c
  emit (.scalar (String.ofList text) false)

def takeQuoted : Scan Unit := do
  keepKey
  allowKey false
  let (text, c) ← StateT.lift (quoted? (← get).cursor)
  moveTo c
  emit (.scalar (String.ofList text) false)

def takePlain : Scan Unit := do
  keepKey
  let s ← get
  let (text, crossed, c) := plainText (s.level != 0) (s.indent + 1) s.cursor
  moveTo c
  allowKey crossed
  emit (.scalar (String.ofList text) true)

/-! ### The next token -/

def marks : List Char :=
  ['-', '?', ':', ',', '[', ']', '\x7b', '\x7d', '#', '&', '*', '!', '|', '>', '\'', '"', '%', '@',
    '\x60']

def startsPlain (flow : Bool) (c : Cursor) : Bool :=
  !(isGap c.peek || marks.contains c.peek) ||
    (!isGap (c.peekAt 1) && (c.peek == '-' || (!flow && (c.peek == '?' || c.peek == ':'))))

def step : Scan Unit := do
  toNextToken
  dropStale
  unwind (← get).cursor.column
  let s ← get
  let c := s.cursor
  let flow := s.level != 0
  let gapNext := isGap (c.peekAt 1)
  let atSeparator := c.column == 0 && c.atSeparator
  match c.peek with
  | '[' => takeOpening .flowSequenceStart
  | ']' => takeClosing .flowSequenceEnd
  | '\x7b' => takeOpening .flowMappingStart
  | '\x7d' => takeClosing .flowMappingEnd
  | ',' => takeFlowEntry
  | '*' => takeName .reference
  | '&' => takeName .anchor
  | '!' => takeTag
  | '\'' => takeQuoted
  | '"' => takeQuoted
  | ch =>
    if c.rest.isEmpty then takeTextEnd
    else if ch = '%' ∧ c.column = 0 then takeDirective
    else if ch = '-' ∧ atSeparator then takeSeparator .documentStart
    else if ch = '.' ∧ atSeparator then takeSeparator .documentEnd
    else if ch = '-' ∧ gapNext then takeBlockEntry
    else if ch = '?' ∧ (flow || gapNext) then takeKey
    else if ch = ':' ∧ (flow || gapNext) then takeValue
    else if ch = '|' ∧ !flow then takeBlockText false
    else if ch = '>' ∧ !flow then takeBlockText true
    else if startsPlain flow c then takePlain
    else fail

/-! ### The whole text -/

/-- The tokens of some slots, in order, up to a free place from which on nothing can be had. -/
def linearise (filled : List (Nat × List Token)) (stop : Option Nat) : List Slot → List Token
  | [] => []
  | .token t :: rest => t :: linearise filled stop rest
  | .free n :: rest =>
    if stop = some n then []
    else (filled.lookup n).getD [] ++ linearise filled stop rest

def earliestKey (s : Scanner) : Option Nat := (s.keys.map (·.slot)).min?

/-- The tokens of a state from which on nothing can be read. -/
def breakOff (s : Scanner) : List Token :=
  linearise s.filled s.earliestKey s.slots.reverse ++ [.broken]

/-- All tokens from a state on. Where a step leaves a key that can no longer be one, nothing of that step
can be had. -/
def run : Nat → Scanner → List Token
  | 0, s => s.breakOff
  | fuel + 1, s =>
    match StateT.run step s with
    | none => s.breakOff
    | some (_, next) =>
      if next.done then linearise next.filled none next.slots.reverse
      else
        match StateT.run dropStale next with
        | none => s.breakOff
        | some (_, fresh) => run fuel fresh

end Scanner

def Token.ofText (text : String) : List Token :=
  Scanner.run (text.length + 2) { cursor := { rest := text.toList } }

end Criteria.Yaml
