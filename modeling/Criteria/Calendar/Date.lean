/-!
# Calendar dates

Dates of the proleptic Gregorian calendar in the years 1 to 9999, kept as the number of days since
1 January 1970. Arithmetic is on that number; year, month and day are a view of it.
-/

namespace Criteria

/-! ## The civil calendar -/

def isLeapYear (y : Int) : Bool := y % 4 == 0 && (y % 100 != 0 || y % 400 == 0)

def daysInMonth (y : Int) (m : Nat) : Nat :=
  if m = 2 then (if isLeapYear y then 29 else 28)
  else if m = 4 ∨ m = 6 ∨ m = 9 ∨ m = 11 then 30
  else 31

/-- Days from 1 January 1970 to a civil date. Years are counted from March, so that the leap day
is the last one and the month lengths follow one linear rule. -/
def dayNumber (y : Int) (m d : Nat) : Int :=
  let y := if m ≤ 2 then y - 1 else y
  let era := y / 400
  let yearOfEra := y - era * 400
  let monthFromMarch : Int := ((m + 9) % 12 : Nat)
  let dayOfYear := (153 * monthFromMarch + 2) / 5 + (d : Int) - 1
  let dayOfEra := yearOfEra * 365 + yearOfEra / 4 - yearOfEra / 100 + dayOfYear
  era * 146097 + dayOfEra - 719468

/-- Year, month and day of a day number. -/
def civilOfDay (n : Int) : Int × Nat × Nat :=
  let z := n + 719468
  let era := z / 146097
  let dayOfEra := z - era * 146097
  let yearOfEra :=
    (dayOfEra - dayOfEra / 1460 + dayOfEra / 36524 - dayOfEra / 146096) / 365
  let dayOfYear := dayOfEra - (365 * yearOfEra + yearOfEra / 4 - yearOfEra / 100)
  let monthFromMarch := (5 * dayOfYear + 2) / 153
  let day := dayOfYear - (153 * monthFromMarch + 2) / 5 + 1
  let month := if monthFromMarch < 10 then monthFromMarch + 3 else monthFromMarch - 9
  let year := yearOfEra + era * 400 + (if month ≤ 2 then 1 else 0)
  (year, month.toNat, day.toNat)

/-! ## Dates -/

/-- The number of 1 January of the year 1. -/
def firstDay : Int := -719162

/-- The number of 31 December of the year 9999. -/
def lastDay : Int := 2932896

structure Date where
  /-- Days since 1 January 1970. -/
  day : Int
  firstDay_le : firstDay ≤ day
  le_lastDay : day ≤ lastDay
  deriving DecidableEq

namespace Date

def ofDay? (n : Int) : Option Date :=
  if h : firstDay ≤ n ∧ n ≤ lastDay then some ⟨n, h.1, h.2⟩ else none

def ofCivil? (y : Int) (m d : Nat) : Option Date :=
  if 1 ≤ m ∧ m ≤ 12 ∧ 1 ≤ d ∧ d ≤ daysInMonth y m then ofDay? (dayNumber y m d) else none

def civil (d : Date) : Int × Nat × Nat := civilOfDay d.day

end Date

/-! ## Text -/

def padded (width n : Nat) : String :=
  let digits := toString n
  String.ofList (List.replicate (width - digits.length) '0') ++ digits

/-- `YYYY-MM-DD` -/
def Date.toText (d : Date) : String :=
  let (y, m, day) := d.civil
  padded 4 y.toNat ++ "-" ++ padded 2 m ++ "-" ++ padded 2 day

def takeDigits? (width : Nat) (cs : List Char) : Option (Nat × List Char) :=
  let digits := cs.take width
  if digits.length = width ∧ digits.all Char.isDigit then
    some (digits.foldl (fun n c => 10 * n + (c.toNat - '0'.toNat)) 0, cs.drop width)
  else none

def expect? (c : Char) : List Char → Option (List Char)
  | d :: rest => if d = c then some rest else none
  | [] => none

/-- `YYYY-MM-DD` at the start, and the rest. -/
def Date.read? (cs : List Char) : Option (Date × List Char) := do
  let (y, cs) ← takeDigits? 4 cs
  let cs ← expect? '-' cs
  let (m, cs) ← takeDigits? 2 cs
  let cs ← expect? '-' cs
  let (d, cs) ← takeDigits? 2 cs
  let date ← Date.ofCivil? y m d
  some (date, cs)

end Criteria
