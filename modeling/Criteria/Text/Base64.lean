/-!
# Base64

Bytes written six bits to a character. A reader skips characters that are not in the alphabet and stops
at the padding.
-/

namespace Criteria.Text

/-- The six bits that a character stands for. -/
def sixBits? (c : Char) : Option Nat :=
  let n := c.toNat
  if 'A' ≤ c ∧ c ≤ 'Z' then some (n - 'A'.toNat)
  else if 'a' ≤ c ∧ c ≤ 'z' then some (n - 'a'.toNat + 26)
  else if '0' ≤ c ∧ c ≤ '9' then some (n - '0'.toNat + 52)
  else if c = '+' then some 62
  else if c = '/' then some 63
  else none

/-- The bytes of a text. `bits` holds what is left of the characters before, `place` counts the
characters in the current group of four, and `pads` the padding in it. None if a group is not complete. -/
def readBase64? (bits place pads : Nat) : List Char → Option (List UInt8)
  | [] => if place = 0 then some [] else none
  | c :: rest =>
    if c = '=' then
      if 2 ≤ place ∧ 4 ≤ place + pads + 1 then some []
      else readBase64? bits place (if 2 ≤ place then pads + 1 else pads) rest
    else
      match sixBits? c with
      | none => readBase64? bits place pads rest
      | some n =>
        match place with
        | 0 => readBase64? n 1 0 rest
        | 1 => (readBase64? (n % 16) 2 0 rest).map (UInt8.ofNat (bits * 4 + n / 16) :: ·)
        | 2 => (readBase64? (n % 4) 3 0 rest).map (UInt8.ofNat (bits * 16 + n / 4) :: ·)
        | _ => (readBase64? 0 0 0 rest).map (UInt8.ofNat (bits * 64 + n) :: ·)

def base64? (s : String) : Option (List UInt8) := readBase64? 0 0 0 s.toList

end Criteria.Text
