/-!
# Double-precision numbers

A finite number is kept as a sign, a mantissa and a power of two, so every operation below is
integer arithmetic followed by one rounding to the nearest number of the format, ties to the even
mantissa. Nothing here depends on the machine's floating-point unit, and a statement about a number
is a statement about its mantissa and exponent.

Finite numbers are canonical: either the mantissa has exactly 53 bits, or it is shorter and the
exponent is the least one, `-1074`.
-/

namespace Criteria

/-- A number of the IEEE double format, with all not-a-number patterns identified. -/
inductive Binary64 where
  | nan
  | infinite (negative : Bool)
  /-- The number `± mantissa · 2 ^ exponent`. -/
  | finite (negative : Bool) (mantissa : Nat) (exponent : Int)
  deriving DecidableEq, Repr, Inhabited

namespace Binary64

/-! ## Parameters of the format -/

/-- Bits of a full mantissa. -/
def precision : Nat := 53

/-- The exponent of the smallest steps. -/
def minExponent : Int := -1074

/-- The exponent of the largest numbers. -/
def maxExponent : Int := 971

def zero (negative : Bool) : Binary64 := .finite negative 0 minExponent

/-! ## Rounding -/

/-- The quotient `num / den` rounded to the nearest integer, a tie to the even one. -/
def roundEven (num den : Nat) : Nat :=
  let q := num / den
  let twice := 2 * (num % den)
  if twice < den then q else if den < twice then q + 1 else q + q % 2

def scaled (num den : Nat) (e : Int) : Nat × Nat :=
  if 0 ≤ e then (num, den * Nat.pow 2 e.toNat) else (num * Nat.pow 2 (-e).toNat, den)

/-- The exponent at which `num / den` has a full mantissa, or the least exponent below that. -/
def exponentFor (num den : Nat) : Int :=
  let guess : Int := (num.log2 : Int) - (den.log2 : Int) - (precision : Int)
  let (a, b) := scaled num den guess
  max minExponent (if a / b < Nat.pow 2 precision then guess else guess + 1)

/-- The number nearest to `± num / den`. A quotient too large for the format is infinite. -/
def ofRatio (negative : Bool) (num den : Nat) : Binary64 :=
  if num = 0 then zero negative
  else
    let e := exponentFor num den
    let (a, b) := scaled num den e
    let m := roundEven a b
    let (m, e) := if m = Nat.pow 2 precision then (Nat.pow 2 (precision - 1), e + 1) else (m, e)
    if maxExponent < e then .infinite negative else .finite negative m e

/-- The number nearest to `± mantissa · 2 ^ exponent`. -/
def ofDyadic (negative : Bool) (mantissa : Nat) (exponent : Int) : Binary64 :=
  if 0 ≤ exponent then ofRatio negative (mantissa * Nat.pow 2 exponent.toNat) 1
  else ofRatio negative mantissa (Nat.pow 2 (-exponent).toNat)

def ofInt (n : Int) : Binary64 := ofRatio (n < 0) n.natAbs 1

/-- The number nearest to `± digits · 10 ^ exponent`. Exponents far outside the format are settled
without forming the power of ten. -/
def ofDecimal (negative : Bool) (digits : Nat) (exponent : Int) : Binary64 :=
  let magnitude : Int := exponent + ((digits.log2 / 3 : Nat) : Int)
  if digits = 0 then zero negative
  else if 400 < exponent then .infinite negative
  else if magnitude < -400 then zero negative
  else if 0 ≤ exponent then ofRatio negative (digits * Nat.pow 10 exponent.toNat) 1
  else ofRatio negative digits (Nat.pow 10 (-exponent).toNat)

/-! ## Arithmetic -/

/-- The mantissa with its sign, brought to the exponent `e`, which must not exceed the own one. -/
def signedAt (negative : Bool) (mantissa : Nat) (exponent e : Int) : Int :=
  let m : Int := (mantissa * Nat.pow 2 (exponent - e).toNat : Nat)
  if negative then -m else m

/-- The sum of two finite numbers; the other cases follow the usual rules for infinities. -/
def add : Binary64 → Binary64 → Binary64
  | .nan, _ | _, .nan => .nan
  | .infinite a, .infinite b => if a = b then .infinite a else .nan
  | .infinite a, _ => .infinite a
  | _, .infinite b => .infinite b
  | .finite s₁ m₁ e₁, .finite s₂ m₂ e₂ =>
    let e := min e₁ e₂
    let sum := signedAt s₁ m₁ e₁ e + signedAt s₂ m₂ e₂ e
    if sum = 0 then zero (s₁ && s₂) else ofDyadic (sum < 0) sum.natAbs e

def mul : Binary64 → Binary64 → Binary64
  | .nan, _ | _, .nan => .nan
  | .infinite a, .infinite b => .infinite (a != b)
  | .infinite a, .finite s m _ | .finite s m _, .infinite a =>
    if m = 0 then .nan else .infinite (a != s)
  | .finite s₁ m₁ e₁, .finite s₂ m₂ e₂ => ofDyadic (s₁ != s₂) (m₁ * m₂) (e₁ + e₂)

def neg : Binary64 → Binary64
  | .nan => .nan
  | .infinite s => .infinite (!s)
  | .finite s m e => .finite (!s) m e

/-! ## Comparison and integers -/

def compareFinite (negative : Bool) (mantissa : Nat) (exponent : Int) (n : Int) : Ordering :=
  let low := min exponent 0
  compare (signedAt negative mantissa exponent low) (n * Nat.pow 2 (-low).toNat)

/-- The order of a number and an integer, decided exactly; not-a-number has no order. -/
def compareInt? : Binary64 → Int → Option Ordering
  | .nan, _ => none
  | .infinite s, _ => some (if s then .lt else .gt)
  | .finite s m e, n => some (compareFinite s m e n)

/-- The order of two numbers; not-a-number has none, and the two zeros are equal. -/
def compare? : Binary64 → Binary64 → Option Ordering
  | .nan, _ | _, .nan => none
  | .infinite a, .infinite b => some (compare b a)
  | .infinite a, _ => some (if a then .lt else .gt)
  | _, .infinite b => some (if b then .gt else .lt)
  | .finite s₁ m₁ e₁, .finite s₂ m₂ e₂ =>
    let e := min e₁ e₂
    some (compare (signedAt s₁ m₁ e₁ e) (signedAt s₂ m₂ e₂ e))

inductive NotAnInteger where
  | nan
  | infinity
  deriving DecidableEq, Repr

/-- The integer part, cut toward zero. -/
def truncate : Binary64 → Except NotAnInteger Int
  | .nan => .error .nan
  | .infinite _ => .error .infinity
  | .finite s m e =>
    let whole : Int := (if 0 ≤ e then m * Nat.pow 2 e.toNat else m / Nat.pow 2 (-e).toNat : Nat)
    .ok (if s then -whole else whole)

/-- What `truncate` cuts off, with the sign of the number. -/
def fraction : Binary64 → Binary64
  | .finite s m e =>
    if 0 ≤ e then zero s else ofDyadic s (m % Nat.pow 2 (-e).toNat) e
  | x => x

/-- The nearest integer to a finite number, a tie to the even one. -/
def roundToInt : Binary64 → Int
  | .finite s m e =>
    let (a, b) := scaled m 1 (-e)
    let n : Int := roundEven a b
    if s then -n else n
  | _ => 0

def isZero : Binary64 → Bool
  | .finite _ 0 _ => true
  | _ => false

/-- Not-a-number, an infinity, or a number with digits behind the point. -/
def isIntegral : Binary64 → Bool
  | .finite _ m e => 0 ≤ e || m % Nat.pow 2 (-e).toNat == 0
  | _ => false

end Binary64
end Criteria
