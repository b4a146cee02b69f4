import Criteria.Number.Binary64

/-!
# The shortest decimal that reads back

Of all decimals that round to a given number, the text shows one with the fewest digits, and of
those the nearest. For each digit count the two neighbours of the number on that decimal grid are
tested in exact arithmetic, and the first grid with a hit wins: if a point of a grid lies in the
interval of reals that round to the number, so does one of these two neighbours.
-/

namespace Criteria

/-- Decimal digits `digits · 10 ^ exponent`. -/
structure Decimal where
  digits : Nat
  exponent : Int
  deriving DecidableEq, Repr, Inhabited

namespace Decimal

def ratio (d : Decimal) : Nat × Nat :=
  if 0 ≤ d.exponent then (d.digits * Nat.pow 10 d.exponent.toNat, 1)
  else (d.digits, Nat.pow 10 (-d.exponent).toNat)

/-- Drops the zeros at the end of the digits; `fuel` bounds their number. -/
def trim (fuel : Nat) (d : Decimal) : Decimal :=
  match fuel with
  | 0 => d
  | fuel + 1 =>
    if d.digits ≠ 0 ∧ d.digits % 10 = 0 then trim fuel ⟨d.digits / 10, d.exponent + 1⟩ else d

end Decimal

namespace Binary64

/-- The reals that round to a positive finite number: both ends as fractions, and whether the ends
belong to it. The lower half-step is shorter just above a power of two. -/
structure Interval where
  low : Nat × Nat
  high : Nat × Nat
  closed : Bool

def dyadicRatio (m : Nat) (e : Int) : Nat × Nat :=
  if 0 ≤ e then (m * Nat.pow 2 e.toNat, 1) else (m, Nat.pow 2 (-e).toNat)

def interval (m : Nat) (e : Int) : Interval :=
  let low :=
    if m = Nat.pow 2 (precision - 1) ∧ minExponent < e then dyadicRatio (4 * m - 1) (e - 2)
    else dyadicRatio (2 * m - 1) (e - 1)
  ⟨low, dyadicRatio (2 * m + 1) (e - 1), m % 2 = 0⟩

def compareRatio (x y : Nat × Nat) : Ordering := compare (x.1 * y.2) (y.1 * x.2)

namespace Interval

def contains (i : Interval) (d : Decimal) : Bool :=
  let r := d.ratio
  match compareRatio i.low r, compareRatio r i.high with
  | .lt, .lt => true
  | .eq, .lt | .lt, .eq => i.closed
  | _, _ => false

end Interval

/-- The number of decimal digits of the integer part of a fraction, or minus the number of zeros
between the point and the first digit. -/
def decimalPoint (r : Nat × Nat) : Int :=
  if r.2 ≤ r.1 then (Nat.toDigits 10 (r.1 / r.2)).length
  else
    let guess : Int := (Nat.toDigits 10 (r.2 / r.1)).length
    -- `r.2 / r.1` is at least one; it has one digit more than there are leading zeros,
    -- save at an exact power of ten
    if r.1 * Nat.pow 10 (guess.toNat - 1) = r.2 then -(guess - 2) else -(guess - 1)

/-- The nearer of the two neighbours of `r` on the grid of `10 ^ p` that lie in `i`; a tie goes to
the even one. -/
def nearestOnGrid (i : Interval) (r : Nat × Nat) (p : Int) : Option Decimal :=
  let scaledRatio : Nat × Nat :=
    if 0 ≤ p then (r.1, r.2 * Nat.pow 10 p.toNat) else (r.1 * Nat.pow 10 (-p).toNat, r.2)
  let down := scaledRatio.1 / scaledRatio.2
  let below : Decimal := ⟨down, p⟩
  let above : Decimal := ⟨down + 1, p⟩
  match i.contains below && down != 0, i.contains above with
  | true, true =>
    match compare (2 * (scaledRatio.1 % scaledRatio.2)) scaledRatio.2 with
    | .lt => some below
    | .gt => some above
    | .eq => some (if down % 2 = 0 then below else above)
  | true, false => some below
  | false, true => some above
  | false, false => none

/-- The shortest decimal for the positive number `m · 2 ^ e`. Seventeen digits always suffice. -/
def shortest (m : Nat) (e : Int) : Decimal :=
  let r := dyadicRatio m e
  let i := interval m e
  let point := decimalPoint r
  let found := (List.range 17).findSome? fun n : Nat => nearestOnGrid i r (point - (n + 1 : Nat))
  (found.getD ⟨m, 0⟩).trim 400

/-! ## Text -/

structure Layout where
  /-- Positions of the decimal point that are written without an exponent: above the first bound
  and up to the second. -/
  pointAbove : Int
  pointUpTo : Int
  /-- The least number of digits of a written exponent. -/
  exponentWidth : Nat

/-- Positional from `0.0001` up to `10 ^ 16`, else with an exponent of at least two digits. -/
def plainLayout : Layout := ⟨-4, 16, 2⟩

def Layout.exponentText (l : Layout) (e : Int) : String :=
  let digits := toString e.natAbs
  let pad := String.ofList (List.replicate (l.exponentWidth - digits.length) '0')
  (if e < 0 then "e-" else "e+") ++ pad ++ digits

/-- A decimal with at least one digit behind the point, or with an exponent. -/
def Layout.render (l : Layout) (d : Decimal) : String :=
  let digits := Nat.toDigits 10 d.digits
  let point : Int := (digits.length : Int) + d.exponent
  if l.pointAbove < point ∧ point ≤ l.pointUpTo then
    if point ≤ 0 then
      "0." ++ String.ofList (List.replicate (-point).toNat '0' ++ digits)
    else
      let whole := digits.take point.toNat
      let rest := digits.drop point.toNat
      let zeros := List.replicate (point.toNat - whole.length) '0'
      String.ofList (whole ++ zeros) ++ "." ++ (if rest.isEmpty then "0" else String.ofList rest)
  else
    let exponent := l.exponentText (point - 1)
    match digits with
    | [] => "0" ++ exponent
    | [c] => String.ofList [c] ++ exponent
    | c :: rest => String.ofList (c :: '.' :: rest) ++ exponent

/-- The text of a number: the shortest decimal that reads back as it. -/
def toText : Binary64 → String
  | .nan => "nan"
  | .infinite s => if s then "-inf" else "inf"
  | .finite s m e =>
    (if s then "-" else "") ++
      (if m = 0 then "0.0" else plainLayout.render (shortest m e))

end Binary64
end Criteria
