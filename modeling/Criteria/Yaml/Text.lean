import Criteria.Yaml.Cursor

/-!
# Texts of YAML

Plain texts end where something else can begin; quoted texts end at their mark; block texts end where
the indentation does. In all of them line ends are folded: a single one counts as a space, and of several
the first is dropped.
-/

namespace Criteria.Yaml

/-! ## Folding -/

/-- What a line end followed by further ones counts as. -/
def foldBreaks (first : Char) (others : List Char) : List Char :=
  if breakText first ≠ '\n' then breakText first :: others
  else if others.isEmpty then [' '] else others

/-! ## Plain texts -/

def flowMarks : List Char := [',', '[', ']', '\x7b', '\x7d']

/-- The characters up to the next gap or the next mark that ends a plain text. -/
def plainRun (flow : Bool) : List Char → List Char
  | [] => []
  | c :: rest =>
    let next := rest.headD '\x00'
    if isGap c || (c == ':' && (isGap next || (flow && flowMarks.contains next))) ||
        (flow && (c == '?' || flowMarks.contains c)) then []
    else c :: plainRun flow rest

/-- The line ends between the lines of a plain text, with the spaces around them dropped; none if a
document ends there. -/
def plainBreaks : Nat → Cursor → Option (List Char) × Cursor
  | 0, c => (some [], c)
  | fuel + 1, c =>
    let c := c.skipSpaces
    if isBreak c.peek then
      let next := c.forward
      if next.atSeparator then (none, next)
      else
        let (more, last) := plainBreaks fuel next
        (more.map (breakText c.peek :: ·), last)
    else (some [], c)

/-- What stands between two runs of a plain text, whether a line ends there, and where it goes on.
Nothing stands there if the text ends. -/
def plainGap (c : Cursor) : List Char × Bool × Cursor :=
  let spaces := c.run (· == ' ')
  let c := c.skipSpaces
  if isBreak c.peek then
    let next := c.forward
    if next.atSeparator then ([], true, next)
    else
      match plainBreaks (next.rest.length + 1) next with
      | (none, last) => ([], true, last)
      | (some others, last) => (foldBreaks c.peek others, true, last)
  else (spaces, false, c)

/-- The rest of a plain text behind a gap, where it ends, and whether a line has ended since its last
run. -/
def plainRest (flow : Bool) (indent : Int) :
    Nat → List Char → Bool → Cursor → List Char × Bool × Cursor
  | 0, _, crossed, c => ([], crossed, c)
  | fuel + 1, gap, crossed, c =>
    let run := if c.peek = '#' then [] else plainRun flow c.rest
    if run.isEmpty then ([], crossed, c)
    else
      let (gap', crossed', c') := plainGap (c.advance run.length)
      if gap'.isEmpty || c'.peek = '#' || (!flow && decide ((c'.column : Int) < indent)) then
        (gap ++ run, crossed', c')
      else
        let (more, crossed, last) := plainRest flow indent fuel gap' crossed' c'
        (gap ++ run ++ more, crossed, last)

def plainText (flow : Bool) (indent : Int) (c : Cursor) : List Char × Bool × Cursor :=
  plainRest flow indent (c.rest.length + 1) [] false c

/-! ## Quoted texts -/

def escapes : List (Char × Char) :=
  [('0', '\x00'), ('a', '\x07'), ('b', '\x08'), ('t', '\t'), ('\t', '\t'), ('n', '\n'), ('v', '\x0b'),
    ('f', '\x0c'), ('r', '\r'), ('e', '\x1b'), (' ', ' '), ('"', '"'), ('\\', '\\'), ('/', '/'),
    ('N', '\u0085'), ('_', '\u00a0'), ('L', '\u2028'), ('P', '\u2029')]

/-- How many hexadecimal digits follow a letter. -/
def codeWidths : List (Char × Nat) := [('x', 2), ('u', 4), ('U', 8)]

def hexDigit? (c : Char) : Option Nat :=
  if c.isDigit then some (c.toNat - '0'.toNat)
  else
    let l := c.toLower
    if 'a' ≤ l ∧ l ≤ 'f' then some (l.toNat - 'a'.toNat + 10) else none

def hexValue? (width : Nat) (c : Cursor) : Option Nat :=
  let digits := c.rest.take width
  if digits.length = width then digits.foldlM (fun n d => (hexDigit? d).map (16 * n + ·)) 0 else none

/-- The line ends inside a quoted text, with the blanks around them dropped. -/
def quotedBreaks? : Nat → Cursor → Option (List Char × Cursor)
  | 0, c => some ([], c)
  | fuel + 1, c =>
    if c.atSeparator then none
    else
      let c := c.skip fun ch => ch == ' ' || ch == '\t'
      if isBreak c.peek then do
        let (more, last) ← quotedBreaks? fuel c.forward
        some (breakText c.peek :: more, last)
      else some ([], c)

def readEscape? (c : Cursor) : Option (List Char × Cursor) :=
  match escapes.lookup c.peek, codeWidths.lookup c.peek with
  | some d, _ => some ([d], c.forward)
  | none, some width => do
    let n ← hexValue? width c.forward
    some ([Char.ofNat n], c.forward.advance width)
  | none, none => if isBreak c.peek then quotedBreaks? (c.rest.length + 1) c.forward else none

def quotedGap? (c : Cursor) : Option (List Char × Cursor) :=
  let isBlank (ch : Char) : Bool := ch == ' ' || ch == '\t'
  let blanks := c.run isBlank
  let c := c.skip isBlank
  if isBreak c.peek then do
    let (others, last) ← quotedBreaks? (c.rest.length + 1) c.forward
    some (foldBreaks c.peek others, last)
  else some (blanks, c)

def quotedText? (mark : Char) : Nat → Cursor → Option (List Char × Cursor)
  | 0, _ => none
  | fuel + 1, c =>
    let ch := c.peek
    let go (r : Option (List Char × Cursor)) : Option (List Char × Cursor) := do
      let (text, c) ← r
      let (more, last) ← quotedText? mark fuel c
      some (text ++ more, last)
    if c.rest.isEmpty then none
    else if ch = mark then
      if mark = '\'' ∧ c.peekAt 1 = '\'' then go (some (['\''], c.advance 2))
      else some ([], c.forward)
    else if isGap ch then go (quotedGap? c)
    else if mark = '"' ∧ ch = '\\' then go (readEscape? c.forward)
    else go (some ([ch], c.forward))

def quoted? (c : Cursor) : Option (List Char × Cursor) :=
  quotedText? c.peek (c.rest.length + 1) c.forward

/-! ## Block texts -/

/-- What happens to the line ends behind a block text. -/
inductive Chomping where
  | clip
  | strip
  | keep
  deriving DecidableEq, Repr

def chomping? : Char → Option Chomping
  | '+' => some .keep
  | '-' => some .strip
  | _ => none

/-- A digit for the indentation; zero is refused. -/
def increment? (c : Char) : Option (Option Nat) :=
  if c.isDigit then (if c = '0' then none else some (some (c.toNat - '0'.toNat))) else some none

/-- The marks behind the mark of a block text, in either order. -/
def blockHeader? (c : Cursor) : Option (Chomping × Option Nat × Cursor) := do
  match chomping? c.peek with
  | some chomping =>
    let c := c.forward
    let increment ← increment? c.peek
    some (chomping, increment, if increment.isSome then c.forward else c)
  | none =>
    let increment ← increment? c.peek
    let c := if increment.isSome then c.forward else c
    match increment, chomping? c.peek with
    | some _, some chomping => some (chomping, increment, c.forward)
    | _, _ => some (.clip, increment, c)

/-- Empty lines at the start of a block text, and the widest indentation among them. -/
def leadingBreaks : Nat → Nat → Cursor → List Char × Nat × Cursor
  | 0, widest, c => ([], widest, c)
  | fuel + 1, widest, c =>
    let c := c.skipSpaces
    let widest := max widest c.column
    if isBreak c.peek then
      let (more, widest, last) := leadingBreaks fuel widest c.forward
      (breakText c.peek :: more, widest, last)
    else ([], widest, c)

def skipIndent (indent : Nat) (c : Cursor) : Cursor :=
  c.advance (min (indent - c.column) (c.run (· == ' ')).length)

def blockBreaks (indent : Nat) : Nat → Cursor → List Char × Cursor
  | 0, c => ([], c)
  | fuel + 1, c =>
    let c := skipIndent indent c
    if isBreak c.peek then
      let (more, last) := blockBreaks indent fuel c.forward
      (breakText c.peek :: more, last)
    else ([], c)

def isBlankChar (c : Char) : Bool := c == ' ' || c == '\t'

/-- The lines of a block text from a cursor at its indentation, with the empty lines before it. Gives
the text without its last line end, that line end, and the empty lines behind it. -/
def blockLines (folded : Bool) (indent : Nat) :
    Nat → List Char → Cursor → List Char × List Char × List Char × Cursor
  | 0, before, c => ([], [], before, c)
  | fuel + 1, before, c =>
    if c.column = indent ∧ c.peek ≠ '\x00' then
      let words := !isBlankChar c.peek
      let line := c.run fun ch => !isBreak ch
      let c := c.advance line.length
      let lineEnd := if isBreak c.peek then [breakText c.peek] else []
      let (between, next) := blockBreaks indent (c.rest.length + 1) c.forward
      if next.column = indent ∧ next.peek ≠ '\x00' then
        let joint :=
          if folded && lineEnd == ['\n'] && words && !isBlankChar next.peek then
            (if between.isEmpty then [' '] else [])
          else lineEnd
        let (more, lastEnd, behind, last) := blockLines folded indent fuel between next
        (before ++ line ++ joint ++ more, lastEnd, behind, last)
      else (before ++ line, lineEnd, between, next)
    else ([], [], before, c)

/-- A block text below the indentation `indent`. -/
def blockText? (folded : Bool) (indent : Int) (c : Cursor) : Option (List Char × Cursor) := do
  let (chomping, increment, c) ← blockHeader? c.forward
  if !(c.peek == ' ' || isLineEnd c.peek) then none
  else
    let c ← c.endLine?
    let least := (max (indent + 1) 1).toNat
    let fuel := c.rest.length + 1
    let (before, inner, c) :=
      match increment with
      | some n =>
        let inner := least + n - 1
        let (before, c) := blockBreaks inner fuel c
        (before, inner, c)
      | none =>
        let (before, widest, c) := leadingBreaks fuel 0 c
        (before, max least widest, c)
    let (text, lastEnd, behind, c) := blockLines folded inner fuel before c
    let text :=
      match chomping with
      | .strip => text
      | .clip => text ++ lastEnd
      | .keep => text ++ lastEnd ++ behind
    some (text, c)

end Criteria.Yaml
