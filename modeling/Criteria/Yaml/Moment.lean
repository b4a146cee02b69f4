import Criteria.Fault
import Criteria.Yaml.Tag

/-!
# Moments of YAML

A date, or a date with a time of day and an offset. A text has the form of a moment by its digits alone;
whether there is such a day and time is asked only when the moment is made.
-/

namespace Criteria.Yaml

/-- The parts of a moment as they are written. -/
structure MomentText where
  year : Nat
  month : Nat
  day : Nat
  /-- Hour, minute, second and microsecond. -/
  time : Option (Nat × Nat × Nat × Nat)
  /-- The offset in microseconds. -/
  offset : Option Int
  /-- Whether month and day have two digits each. -/
  full : Bool
  deriving Repr

namespace MomentText

def number (digits : List Char) : Nat :=
  digits.foldl (fun n c => 10 * n + (c.toNat - '0'.toNat)) 0

def upToTwo? (cs : List Char) : Option (List Char × List Char) :=
  let digits := (cs.take 2).takeWhile Char.isDigit
  if digits.isEmpty then none else some (digits, cs.drop digits.length)

def isBlank (c : Char) : Bool := c == ' ' || c == '\t'

def offset? (cs : List Char) : Option (Option Int) :=
  match cs.dropWhile isBlank with
  | [] => if cs.isEmpty then some none else none
  | ['Z'] => some (some 0)
  | s :: rest =>
    if !Tag.isSign s then none
    else do
      let (h, rest) ← upToTwo? rest
      let minutes ←
        match rest with
        | [] => some 0
        | ':' :: rest => do
          let (m, rest) ← takeDigits? 2 rest
          if rest.isEmpty then some m else none
        | _ => none
      let offset : Int := ((number h * 60 + minutes : Nat) : Int) * 60 * microsPerSecond
      some (some (if s = '-' then -offset else offset))

def places (cs : List Char) : Nat × List Char :=
  match cs with
  | '.' :: rest =>
    (number ((rest.takeWhile Char.isDigit ++ List.replicate 6 '0').take 6),
      rest.dropWhile Char.isDigit)
  | cs => (0, cs)

def time? (cs : List Char) : Option ((Nat × Nat × Nat × Nat) × Option Int) := do
  let (h, cs) ← upToTwo? cs
  let cs ← expect? ':' cs
  let (m, cs) ← takeDigits? 2 cs
  let cs ← expect? ':' cs
  let (s, cs) ← takeDigits? 2 cs
  let (f, cs) := places cs
  let offset ← offset? cs
  some ((number h, m, s, f), offset)

def read? (cs : List Char) : Option MomentText := do
  let (y, cs) ← takeDigits? 4 cs
  let cs ← expect? '-' cs
  let (m, cs) ← upToTwo? cs
  let cs ← expect? '-' cs
  let (d, cs) ← upToTwo? cs
  let full := m.length == 2 && d.length == 2
  match cs with
  | [] => some ⟨y, number m, number d, none, none, full⟩
  | c :: rest =>
    let rest ← if c = 'T' ∨ c = 't' then some rest
      else if isBlank c then some (rest.dropWhile isBlank) else none
    let (time, offset) ← time? rest
    some ⟨y, number m, number d, some time, offset, full⟩

/-- A date must be written in full, a moment need not be. -/
def isPlain (m : MomentText) : Bool := m.full || m.time.isSome

def date (m : MomentText) : Except Fault Date :=
  if m.year = 0 then .error (.noSuchMoment (.year m.year))
  else if m.month = 0 ∨ 12 < m.month then .error (.noSuchMoment .month)
  else
    match Date.ofCivil? m.year m.month m.day with
    | some d => .ok d
    | none => .error (.noSuchMoment .day)

/-- The value that the text stands for, if there is such a moment. -/
def value (m : MomentText) : Except Fault Value :=
  match m.time with
  | none => m.date.map .date
  | some (h, min, s, f) =>
    if m.offset.any fun o => o ≤ -microsPerDay || microsPerDay ≤ o then
      .error (.noSuchMoment (.offset (m.offset.getD 0)))
    else do
      let d ← m.date
      if 24 ≤ h then throw (.noSuchMoment .hour)
      if 60 ≤ min then throw (.noSuchMoment .minute)
      match TimeOfDay.ofParts? h min s f with
      | none => throw (.noSuchMoment .second)
      | some t =>
        match DateTime.ofParts? d t m.offset with
        | none => throw (.noSuchMoment .day)
        | some moment => return .dateTime moment

end MomentText
end Criteria.Yaml
