/-!
# UTF-8 with faults

Bytes are read as UTF-8 where they can be. What cannot begin a character, and the longest beginning of a
character that is not completed, each count as the replacement character.
-/

namespace Criteria.Text

def replacement : Char := '\uFFFD'

/-- How many bytes follow a first byte, what it adds to the code, and which bytes may follow it directly;
none if it begins no character. -/
def lead? (b : Nat) : Option (Nat × Nat × Nat × Nat) :=
  if b < 0x80 then some (0, b, 0x80, 0xBF)
  else if 0xC2 ≤ b ∧ b ≤ 0xDF then some (1, b - 0xC0, 0x80, 0xBF)
  else if b = 0xE0 then some (2, 0, 0xA0, 0xBF)
  else if b = 0xED then some (2, 0xD, 0x80, 0x9F)
  else if 0xE1 ≤ b ∧ b ≤ 0xEF then some (2, b - 0xE0, 0x80, 0xBF)
  else if b = 0xF0 then some (3, 0, 0x90, 0xBF)
  else if b = 0xF4 then some (3, 4, 0x80, 0x8F)
  else if 0xF1 ≤ b ∧ b ≤ 0xF3 then some (3, b - 0xF0, 0x80, 0xBF)
  else none

/-- Bytes as text. `pending` is the number of bytes that the current character still needs, `code` what its
bytes so far make up, and `low` and `high` bound its next byte. -/
def readUtf8 (pending code low high : Nat) : List UInt8 → List Char
  | [] => if pending = 0 then [] else [replacement]
  | byte :: rest =>
    let b := byte.toNat
    if pending ≠ 0 ∧ low ≤ b ∧ b ≤ high then
      let code := code * 64 + (b - 0x80)
      if pending = 1 then Char.ofNat code :: readUtf8 0 0 0 0 rest
      else readUtf8 (pending - 1) code 0x80 0xBF rest
    else
      let broken := if pending = 0 then [] else [replacement]
      match lead? b with
      | none => broken ++ replacement :: readUtf8 0 0 0 0 rest
      | some (0, code, _, _) => broken ++ Char.ofNat code :: readUtf8 0 0 0 0 rest
      | some (n, code, low, high) => broken ++ readUtf8 n code low high rest

def textOfBytes (content : List UInt8) : String := String.ofList (readUtf8 0 0 0 0 content)

end Criteria.Text
