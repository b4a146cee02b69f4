import Criteria.Number.Reading
import Criteria.Schema
import Criteria.Store.Truth
import Criteria.Text.Like
import Criteria.Value

/-!
# Stored values

A cell of a table and the rules by which the store compares cells: missing values make a comparison
unknown; numbers come before texts and texts before byte strings; numbers compare by value whatever
their kind and texts by code point. A moment in time is stored as its fixed-width text, so moments
are ordered like texts (`DateTime.storedText`).

Before a comparison the value beside a column is brought to the column's kind where it can be: beside
a column of texts a number becomes its text, and beside any other column a text that reads as a
number becomes that number.
-/

namespace Criteria

inductive Cell where
  | null
  | int (n : Int)
  | real (x : Binary64)
  | text (s : String)
  /-- A moment, stored as text. -/
  | stamp (t : DateTime)
  | blob (content : List UInt8)
  deriving DecidableEq, Inhabited

namespace Cell

def ofBool (b : Bool) : Cell := .int (if b then 1 else 0)

/-! ## Numbers as texts and texts as numbers -/

def fifteenDigits (m : Nat) (e : Int) : Decimal :=
  let r := Binary64.dyadicRatio m e
  let p := Binary64.decimalPoint r - 15
  let n :=
    if 0 ≤ p then Binary64.roundEven r.1 (r.2 * Nat.pow 10 p.toNat)
    else Binary64.roundEven (r.1 * Nat.pow 10 (-p).toNat) r.2
  (Decimal.mk n p).trim 20

/-- Positional from `0.0001` up to `10 ^ 15`. -/
def realLayout : Binary64.Layout := ⟨-4, 15, 2⟩

def realText : Binary64 → String
  | .nan => ""
  | .infinite s => if s then "-Inf" else "Inf"
  | .finite s m e =>
    if m = 0 then (if s then "-0.0" else "0.0")
    else
      let d := fifteenDigits m e
      let body := realLayout.render d
      let whole := Nat.toDigits 10 d.digits
      let body :=
        if whole.length = 1 ∧ (body.toList.contains 'e') then
          String.ofList (whole ++ ['.', '0']) ++ String.ofList (body.toList.dropWhile (· ≠ 'e'))
        else body
      (if s then "-" else "") ++ body

def asText? : Cell → Option String
  | .null => none
  | .int n => some (toString n)
  | .real x => some (realText x)
  | .text s => some s
  | .stamp t => some t.storedText
  | .blob content => some (String.ofList (content.map fun b => Char.ofNat b.toNat))

def isSpace (c : Char) : Bool := c.toNat == 32 || (9 ≤ c.toNat && c.toNat ≤ 13)

/-- Whether a whole number has room in a cell. -/
def hasRoom (n : Int) : Bool := -9223372036854775808 ≤ n && n < 9223372036854775808

/-- The number that a text writes in full, blanks at the ends aside. -/
def readNumber? (s : String) : Option Cell :=
  let body := ((s.toList.dropWhile isSpace).reverse.dropWhile isSpace).reverse
  let (negative, digits) := Number.readSign body
  if !digits.isEmpty && digits.all Char.isDigit then
    let n : Int := Number.readDigits digits
    let n := if negative then -n else n
    if hasRoom n then some (.int n)
    else some (.real (Binary64.ofInt n))
  else (Number.readUnsigned? negative digits).map .real

/-! ## Comparison -/

def compareText (s t : String) : Ordering := compare s t

def rank : Cell → Nat
  | .null => 0
  | .int _ | .real _ => 1
  | .text _ | .stamp _ => 2
  | .blob _ => 3

def compareReals (x y : Binary64) : Ordering := (x.compare? y).getD .eq

def compareBytes : List UInt8 → List UInt8 → Ordering
  | [], [] => .eq
  | [], _ => .lt
  | _, [] => .gt
  | a :: s, b :: t => (compare a.toNat b.toNat).then (compareBytes s t)

/-- The order of cells in which results are sorted: missing values come first. -/
def order : Cell → Cell → Ordering
  | .int m, .int n => compare m n
  | .int m, .real y => ((y.compareInt? m).map Ordering.swap).getD .eq
  | .real x, .int n => (x.compareInt? n).getD .eq
  | .real x, .real y => compareReals x y
  | .stamp s, .stamp t => compare s.micros t.micros
  | .text s, .text t => compareText s t
  | .text s, .stamp t => compareText s t.storedText
  | .stamp s, .text t => compareText s.storedText t
  | .blob s, .blob t => compareBytes s t
  | a, b => compare a.rank b.rank

/-- A cell brought to the kind of the column it is compared with, if it is compared with one. -/
def adapt (type : Option ColumnType) (c : Cell) : Cell :=
  match type, c with
  | none, c => c
  | some .text, .int n => .text (toString n)
  | some .text, .real x => .text (realText x)
  | some .text, c => c
  | some _, .text s => (readNumber? s).getD (.text s)
  | some _, c => c

/-- Comparing a cell, that of a column of the given type, with a value: unknown if either is missing. -/
def relate (type : Option ColumnType) (test : Ordering → Bool) (c v : Cell) : Truth :=
  match c, v with
  | .null, _ | _, .null => .unknown
  | c, v => Truth.ofBool (test (order c (v.adapt type)))

/-- Whether a column's cell is one of the values: unknown if it is not found and a value is missing. -/
def memberOf (type : ColumnType) (c : Cell) (vs : List Cell) : Truth :=
  Truth.any (vs.map (relate (some type) (· == .eq) c))

def likePattern (pattern : String) (c : Cell) : Truth :=
  match c.asText? with
  | none => .unknown
  | some s => Truth.ofBool (Text.like pattern s)

/-! ## Loading -/

def load (type : ColumnType) : Cell → Value
  | .null => .null
  | .int n => if type = .boolean then .bool (n ≠ 0) else .int n
  | .real x => .float x
  | .text s => .str s
  | .stamp t => .dateTime t
  | .blob content => .bytes content

end Cell
end Criteria
