import Criteria.Toml.Text
import Criteria.Value

/-!
# Numbers and moments of TOML

Whole numbers in four bases, decimal numbers, dates, times of day and moments. Single underscores may
stand between digits. A reader takes the longest value that starts a text and gives the rest.
-/

namespace Criteria.Toml

/-! ## Digits -/

/-- The digits of a run behind its first one, with single underscores between them dropped. -/
def moreDigits (isDigit : Char → Bool) : List Char → List Char × List Char
  | [] => ([], [])
  | c :: rest =>
    if isDigit c then
      let (digits, rest) := moreDigits isDigit rest
      (c :: digits, rest)
    else if c = '_' then
      match rest with
      | d :: behind =>
        if isDigit d then
          let (digits, rest) := moreDigits isDigit behind
          (d :: digits, rest)
        else ([], c :: d :: behind)
      | [] => ([], [c])
    else ([], c :: rest)

def readDigits? (isDigit : Char → Bool) : List Char → Option (List Char × List Char)
  | [] => none
  | c :: rest =>
    if isDigit c then
      let (digits, rest) := moreDigits isDigit rest
      some (c :: digits, rest)
    else none

def digitsValue (base : Nat) (digits : List Char) : Int :=
  (digits.foldl (fun n c => base * n + (hexDigit? c).getD 0) 0 : Nat)

/-! ## Numbers -/

def readBased? (base : Nat) (isDigit : Char → Bool) (cs : List Char) :
    Option (Value × List Char) :=
  (readDigits? isDigit cs).map fun r => (.int (digitsValue base r.1), r.2)

/-- The digits before the point: a zero alone, or a run that starts with no zero. -/
def readWhole? : List Char → Option (List Char × List Char)
  | '0' :: rest => some (['0'], rest)
  | cs => readDigits? Char.isDigit cs

def readPlaces : List Char → Option (List Char) × List Char
  | '.' :: rest =>
    match readDigits? Char.isDigit rest with
    | some (digits, rest) => (some digits, rest)
    | none => (none, '.' :: rest)
  | cs => (none, cs)

def readExponent (cs : List Char) : Option Int × List Char :=
  match cs with
  | c :: rest =>
    if c = 'e' ∨ c = 'E' then
      let (negative, body) := Number.readSign rest
      match readDigits? Char.isDigit body with
      | some (digits, rest) =>
        let n := digitsValue 10 digits
        (some (if negative then -n else n), rest)
      | none => (none, cs)
    else (none, cs)
  | [] => (none, [])

/-- A number in base ten: whole if it has neither places nor an exponent. -/
def readDecimal? (cs : List Char) : Option (Value × List Char) := do
  let (negative, body) := Number.readSign cs
  let (whole, rest) ← readWhole? body
  let (places, rest) := readPlaces rest
  let (exponent, rest) := readExponent rest
  if places.isNone && exponent.isNone then
    let n := digitsValue 10 whole
    some (.int (if negative then -n else n), rest)
  else
    let places := places.getD []
    some (.float (Binary64.ofDecimal negative (Number.readDigits (whole ++ places))
      (exponent.getD 0 - (places.length : Int))), rest)

def readNumber? : List Char → Option (Value × List Char)
  | '0' :: 'x' :: rest => readBased? 16 (fun c => (hexDigit? c).isSome) rest
  | '0' :: 'b' :: rest => readBased? 2 (fun c => c == '0' || c == '1') rest
  | '0' :: 'o' :: rest => readBased? 8 (fun c => '0' ≤ c && c ≤ '7') rest
  | cs => readDecimal? cs

def readSpecial? (cs : List Char) : Option (Value × List Char) :=
  let (negative, body) := Number.readSign cs
  match body with
  | 'i' :: 'n' :: 'f' :: rest => some (.float (.infinite negative), rest)
  | 'n' :: 'a' :: 'n' :: rest => some (.float .nan, rest)
  | _ => none

/-! ## Moments -/

def readTwo? (bound : Nat) (cs : List Char) : Option (Nat × List Char) := do
  let (n, rest) ← takeDigits? 2 cs
  if n < bound then some (n, rest) else none

/-- `HH:MM:SS` with optional places, of which six count. -/
def readTime? (cs : List Char) : Option (TimeOfDay × List Char) := do
  let (h, cs) ← readTwo? 24 cs
  let cs ← expect? ':' cs
  let (m, cs) ← readTwo? 60 cs
  let cs ← expect? ':' cs
  let (s, cs) ← readTwo? 60 cs
  let (f, cs) := TimeOfDay.readPlaces cs
  let t ← TimeOfDay.ofParts? h m s f
  some (t, cs)

def readOffset (cs : List Char) : Option Int × List Char :=
  match cs with
  | c :: rest =>
    if c = 'Z' ∨ c = 'z' then (some 0, rest)
    else if c = '+' ∨ c = '-' then
      let parts := do
        let (h, rest) ← readTwo? 24 rest
        let rest ← expect? ':' rest
        let (m, rest) ← readTwo? 60 rest
        some (((h * 60 + m : Nat) : Int) * 60 * microsPerSecond, rest)
      match parts with
      | some (offset, rest) => (some (if c = '-' then -offset else offset), rest)
      | none => (none, cs)
    else (none, cs)
  | [] => (none, [])

/-- Whether a text starts with `YYYY-MM-DD`, with a month up to twelve and a day up to 31. -/
def startsWithDate (cs : List Char) : Bool :=
  (do
    let (_, cs) ← takeDigits? 4 cs
    let cs ← expect? '-' cs
    let (m, cs) ← readTwo? 13 cs
    let cs ← expect? '-' cs
    let (d, _) ← readTwo? 32 cs
    some (m ≠ 0 ∧ d ≠ 0 : Bool)).getD false

/-- A date, alone or with a time of day and an offset. A day that the calendar does not have is
refused. -/
def readMoment? (cs : List Char) : Option (Value × List Char) := do
  let (d, rest) ← Date.read? cs
  let time :=
    match rest with
    | c :: behind => if c = 'T' ∨ c = 't' ∨ c = ' ' then readTime? behind else none
    | [] => none
  match time with
  | none => some (.date d, rest)
  | some (t, rest) =>
    let (offset, rest) := readOffset rest
    let moment ← DateTime.ofParts? d t offset
    some (.dateTime moment, rest)

def readScalar? (cs : List Char) : Option (Value × List Char) :=
  match cs with
  | 't' :: 'r' :: 'u' :: 'e' :: rest => some (.bool true, rest)
  | 'f' :: 'a' :: 'l' :: 's' :: 'e' :: rest => some (.bool false, rest)
  | cs =>
    if startsWithDate cs then readMoment? cs
    else
      match readTime? cs with
      | some (t, rest) => some (.time t, rest)
      | none => readNumber? cs <|> readSpecial? cs

end Criteria.Toml
