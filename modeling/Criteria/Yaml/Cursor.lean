/-!
# Positions in a YAML text

A cursor stands before a character and knows its line and column. Behind the last character it sees NUL,
which no text holds.
-/

namespace Criteria.Yaml

/-! ## Characters -/

def isBreak (c : Char) : Bool :=
  c == '\n' || c == '\u0085' || c == '\u2028' || c == '\u2029'

def isLineEnd (c : Char) : Bool := c == '\x00' || isBreak c

def isGap (c : Char) : Bool := c == ' ' || c == '\t' || isLineEnd c

/-- What a line end counts as in a text. -/
def breakText (c : Char) : Char := if c = '\u0085' then '\n' else c

/-- The characters that a text may hold. -/
def isAllowed (c : Char) : Bool :=
  let n := c.toNat
  n == 9 || n == 10 || n == 13 || (32 ≤ n && n ≤ 126) || n == 0x85 ||
    (0xA0 ≤ n && n ≤ 0xFFFD) || 0x10000 ≤ n

def isNameChar (c : Char) : Bool := c.isAlphanum || c == '-' || c == '_'

/-! ## Cursors -/

structure Cursor where
  rest : List Char
  index : Nat := 0
  line : Nat := 0
  column : Nat := 0
  deriving Inhabited

namespace Cursor

def peekAt (c : Cursor) (n : Nat) : Char := (c.rest.drop n).headD '\x00'

def peek (c : Cursor) : Char := c.rest.headD '\x00'

/-- One character on. A byte order mark takes no column. -/
def forward (c : Cursor) : Cursor :=
  match c.rest with
  | [] => c
  | ch :: rest =>
    if isBreak ch then ⟨rest, c.index + 1, c.line + 1, 0⟩
    else ⟨rest, c.index + 1, c.line, if ch = '\uFEFF' then c.column else c.column + 1⟩

def advance (c : Cursor) : Nat → Cursor
  | 0 => c
  | n + 1 => c.forward.advance n

/-- The longest run of characters that `p` holds of. -/
def run (c : Cursor) (p : Char → Bool) : List Char := c.rest.takeWhile p

def skip (c : Cursor) (p : Char → Bool) : Cursor := c.advance (c.run p).length

def skipSpaces (c : Cursor) : Cursor := c.skip (· == ' ')

def skipComment (c : Cursor) : Cursor :=
  if c.peek = '#' then c.skip fun ch => !isBreak ch else c

/-- Behind spaces and a comment up to the next line; none if anything else stands there. -/
def endLine? (c : Cursor) : Option Cursor :=
  let c := c.skipSpaces.skipComment
  if isLineEnd c.peek then some c.forward else none

/-- Whether three equal characters and a gap stand here, as between documents. -/
def atSeparator (c : Cursor) : Bool :=
  ((c.rest.take 3 == ['-', '-', '-']) || (c.rest.take 3 == ['.', '.', '.'])) && isGap (c.peekAt 3)

end Cursor
end Criteria.Yaml
