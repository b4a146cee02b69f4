import Criteria.Calendar.Date

/-!
# Times of day and instants

A `DateTime` is the reading of a wall clock, as microseconds since the start of 1970 on that clock,
with the clock's offset from universal time where it is known. The main operation is `floorTo?`,
which moves a reading down to the grid of a step: the grid starts at the epoch, on the clock itself
where no offset is known and in universal time where it is.
-/

namespace Criteria

/-! ## Times of day -/

def microsPerSecond : Int := 1000000
def microsPerDay : Int := 86400000000

/-- A reading of a clock, as microseconds since midnight. -/
structure TimeOfDay where
  micros : Nat
  micros_lt : micros < 86400000000
  deriving DecidableEq

namespace TimeOfDay

def midnight : TimeOfDay := ⟨0, by decide⟩

def ofMicros? (n : Nat) : Option TimeOfDay :=
  if h : n < 86400000000 then some ⟨n, h⟩ else none

def ofParts? (hour minute second micro : Nat) : Option TimeOfDay :=
  if hour < 24 ∧ minute < 60 ∧ second < 60 ∧ micro < 1000000 then
    ofMicros? (((hour * 60 + minute) * 60 + second) * 1000000 + micro)
  else none

def hour (t : TimeOfDay) : Nat := t.micros / 3600000000
def minute (t : TimeOfDay) : Nat := t.micros / 60000000 % 60
def second (t : TimeOfDay) : Nat := t.micros / 1000000 % 60
def micro (t : TimeOfDay) : Nat := t.micros % 1000000

/-- `HH:MM:SS`, with six places where they are not all zero. -/
def toText (t : TimeOfDay) : String :=
  padded 2 t.hour ++ ":" ++ padded 2 t.minute ++ ":" ++ padded 2 t.second ++
    (if t.micro = 0 then "" else "." ++ padded 6 t.micro)

/-- `HH:MM:SS.ffffff`, always with six places. -/
def storedText (t : TimeOfDay) : String :=
  padded 2 t.hour ++ ":" ++ padded 2 t.minute ++ ":" ++ padded 2 t.second ++ "." ++ padded 6 t.micro

/-- Up to six places after a point, filled with zeros; further digits are dropped. -/
def readPlaces (cs : List Char) : Nat × List Char :=
  match cs with
  | '.' :: rest =>
    let digits := rest.takeWhile Char.isDigit
    if digits.isEmpty then (0, cs)
    else
      let six := (digits ++ List.replicate 6 '0').take 6
      (six.foldl (fun n c => 10 * n + (c.toNat - '0'.toNat)) 0, rest.dropWhile Char.isDigit)
  | _ => (0, cs)

/-- `HH:MM`, `HH:MM:SS` or `HH:MM:SS.ffffff` at the start, and the rest. -/
def read? (cs : List Char) : Option (TimeOfDay × List Char) := do
  let (h, cs) ← takeDigits? 2 cs
  let cs ← expect? ':' cs
  let (m, cs) ← takeDigits? 2 cs
  match expect? ':' cs with
  | none => (ofParts? h m 0 0).map (·, cs)
  | some cs =>
    let (s, cs) ← takeDigits? 2 cs
    let (f, cs) := readPlaces cs
    (ofParts? h m s f).map (·, cs)

end TimeOfDay

/-! ## Instants -/

/-- The start of the year 1. -/
def firstMicro : Int := firstDay * microsPerDay

/-- The last microsecond of the year 9999. -/
def lastMicro : Int := lastDay * microsPerDay + (microsPerDay - 1)

/-- A wall-clock reading with an optional offset. -/
structure DateTime where
  /-- Microseconds since the start of 1970 on the clock. -/
  micros : Int
  /-- How far the clock is ahead of universal time, in microseconds. -/
  offset : Option Int
  firstMicro_le : firstMicro ≤ micros
  le_lastMicro : micros ≤ lastMicro
  deriving DecidableEq

namespace DateTime

def ofMicros? (micros : Int) (offset : Option Int) : Option DateTime :=
  if h : firstMicro ≤ micros ∧ micros ≤ lastMicro then some ⟨micros, offset, h.1, h.2⟩ else none

def ofParts? (d : Date) (t : TimeOfDay) (offset : Option Int) : Option DateTime :=
  ofMicros? (d.day * microsPerDay + t.micros) offset

/-- The reading as microseconds of universal time, or of the clock where no offset is known. -/
def instant (t : DateTime) : Int := t.micros - t.offset.getD 0

def day (t : DateTime) : Int := t.micros / microsPerDay

theorem firstDay_le_day (t : DateTime) : firstDay ≤ t.day := by
  have h := t.firstMicro_le
  simp only [day, firstMicro, microsPerDay, firstDay] at *
  omega

theorem day_le_lastDay (t : DateTime) : t.day ≤ lastDay := by
  have h := t.le_lastMicro
  simp only [day, lastMicro, microsPerDay, lastDay] at *
  omega

def date (t : DateTime) : Date := ⟨t.day, t.firstDay_le_day, t.day_le_lastDay⟩

def time (t : DateTime) : TimeOfDay :=
  ⟨(t.micros % microsPerDay).toNat, by
    simp only [microsPerDay]
    omega⟩

/-- The start of a day, with no offset. -/
def ofDate (d : Date) : DateTime :=
  ⟨d.day * microsPerDay, none, by
    have := d.firstDay_le
    simp only [firstMicro, microsPerDay]
    omega, by
    have := d.le_lastDay
    simp only [lastMicro, microsPerDay]
    omega⟩

def withoutOffset (t : DateTime) : DateTime := { t with offset := none }

/-! ## Rounding down -/

/-- The reading moved down to the grid of a positive `step` of microseconds; `none` where that lies
before the first representable one. -/
def floorTo? (step : Int) (t : DateTime) : Option DateTime :=
  ofMicros? (t.micros - t.instant % step) t.offset

/-! ## Text -/

/-- `+HH:MM`, with seconds and microseconds where they are not zero. -/
def offsetText (offset : Int) : String :=
  let n := offset.natAbs
  let seconds := n / 1000000
  (if offset < 0 then "-" else "+") ++ padded 2 (seconds / 3600) ++ ":" ++
    padded 2 (seconds / 60 % 60) ++
    (if n % 60000000 = 0 then ""
     else ":" ++ padded 2 (seconds % 60) ++
      (if n % 1000000 = 0 then "" else "." ++ padded 6 (n % 1000000)))

def toTextWith (separator : String) (t : DateTime) : String :=
  t.date.toText ++ separator ++ t.time.toText ++ (t.offset.map offsetText).getD ""

/-- Date and time with a `T` between them. -/
def toText (t : DateTime) : String := t.toTextWith "T"

/-- `YYYY-MM-DD HH:MM:SS.ffffff` always with six places and without offset: texts of this form are
ordered like the readings they show. -/
def storedText (t : DateTime) : String := t.date.toText ++ " " ++ t.time.storedText

/-- An offset `Z`, `+HH:MM` or `+HH:MM:SS`. -/
def readOffset? : List Char → Option (Option Int)
  | [] => some none
  | ['Z'] | ['z'] => some (some 0)
  | c :: rest =>
    if c = '+' ∨ c = '-' then
      match TimeOfDay.read? rest with
      | some (t, []) => some (some (if c = '-' then -(t.micros : Int) else t.micros))
      | _ => none
    else none

/-- A date, optionally followed by `T` or a blank, a time and an offset. -/
def read? (s : String) : Option DateTime := do
  let (d, rest) ← Date.read? s.toList
  match rest with
  | [] => some (ofDate d)
  | c :: rest =>
    if c = 'T' ∨ c = 't' ∨ c = ' ' then
      let (t, rest) ← TimeOfDay.read? rest
      let offset ← readOffset? rest
      ofParts? d t offset
    else none

end DateTime
end Criteria
