import Criteria.Number.Binary64
import Criteria.Text.Blank
import Criteria.Text.DecimalDigit

/-!
# Numbers in text

Whole numbers and decimal numbers as people write them in settings: blanks around the number are
ignored, digits may be of any script, and one underscore may stand between two digits.
-/

namespace Criteria.Number

open Criteria.Text

/-! ## Digits -/

/-- The text with digits of every script brought to ASCII and without blanks at the ends. -/
def normalize (s : String) : List Char :=
  (trimBlank s.toList).map fun c =>
    match digitValue? c with
    | some d => Char.ofNat ('0'.toNat + d)
    | none => if isBlank c then ' ' else c

/-- Drops underscores; `none` if one does not stand between two digits. -/
def dropUnderscores (before : Bool) : List Char → Option (List Char)
  | [] => some []
  | '_' :: rest =>
    match rest with
    | c :: _ => if before && c.isDigit then dropUnderscores false rest else none
    | [] => none
  | c :: rest => (dropUnderscores c.isDigit rest).map (c :: ·)

def readDigits (cs : List Char) : Nat :=
  cs.foldl (fun n c => 10 * n + (c.toNat - '0'.toNat)) 0

def readSign : List Char → Bool × List Char
  | '-' :: rest => (true, rest)
  | '+' :: rest => (false, rest)
  | cs => (false, cs)

/-! ## Whole numbers -/

/-- The whole number that a text writes in base ten. -/
def readInt? (s : String) : Option Int := do
  let (negative, digits) := readSign (normalize s)
  let digits ← dropUnderscores false digits
  if digits.isEmpty || !digits.all Char.isDigit then none
  else
    let n : Int := readDigits digits
    some (if negative then -n else n)

def baseDigit (c : Char) : Option Nat :=
  if c.isDigit then some (c.toNat - '0'.toNat)
  else if c.isLower then some (c.toNat - 'a'.toNat + 10)
  else if c.isUpper then some (c.toNat - 'A'.toNat + 10)
  else none

/-- The letter that announces a base behind a zero. -/
def baseLetter? : Nat → Option Char
  | 2 => some 'b'
  | 8 => some 'o'
  | 16 => some 'x'
  | _ => none

def dropBase (base : Nat) : List Char → List Char
  | '0' :: c :: rest => if baseLetter? base = some c.toLower then rest else '0' :: c :: rest
  | cs => cs

/-- The whole number that digits without underscores write in a base up to 36. -/
def readIntIn? (base : Nat) (s : String) : Option Int := do
  let (negative, digits) := readSign (normalize s)
  let digits := dropBase base digits
  let values ← digits.mapM fun c => (baseDigit c).filter (· < base)
  if values.isEmpty then none
  else
    let n : Int := (values.foldl (fun n d => base * n + d) 0 : Nat)
    some (if negative then -n else n)

/-! ## Decimal numbers -/

/-- The exponent part of a number: nothing, or `e`, a sign and digits. -/
def readExponent? : List Char → Option Int
  | [] => some 0
  | c :: rest =>
    if c = 'e' ∨ c = 'E' then
      let (negative, digits) := readSign rest
      if digits.isEmpty || !digits.all Char.isDigit then none
      else
        let n : Int := readDigits digits
        some (if negative then -n else n)
    else none

/-- Digits with an optional point and exponent; a digit must stand on one side of the point. -/
def readUnsigned? (negative : Bool) (cs : List Char) : Option Binary64 := do
  let whole := cs.takeWhile Char.isDigit
  let (places, rest) :=
    match cs.dropWhile Char.isDigit with
    | '.' :: rest => (rest.takeWhile Char.isDigit, rest.dropWhile Char.isDigit)
    | rest => ([], rest)
  if whole.isEmpty && places.isEmpty then none
  else
    let exponent ← readExponent? rest
    some (Binary64.ofDecimal negative (readDigits (whole ++ places))
      (exponent - (places.length : Int)))

/-- A decimal number, `inf`, `infinity` or `nan` in any case, with an optional sign. -/
def readPlainFloat? (cs : List Char) : Option Binary64 :=
  let (negative, body) := readSign cs
  let word := body.map Char.toLower
  if word = "inf".toList ∨ word = "infinity".toList then some (.infinite negative)
  else if word = "nan".toList then some .nan
  else readUnsigned? negative body

def readFloat? (s : String) : Option Binary64 :=
  (dropUnderscores false (normalize s)).bind readPlainFloat?

end Criteria.Number
