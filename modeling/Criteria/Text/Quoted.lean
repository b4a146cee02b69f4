import Criteria.Text.Printable

/-!
# Quoted text

The written form of a text or of a byte string: single quotes, or double quotes where the content
has a single quote and no double one; a backslash before the quote in use and before a backslash;
short escapes for tab, line feed and carriage return; and the code point in hexadecimal for all else
that is not printable. `quote` therefore gives one line whatever the text holds.
-/

namespace Criteria.Text

def hexDigit (d : Nat) : Char :=
  if d < 10 then Char.ofNat ('0'.toNat + d) else Char.ofNat ('a'.toNat + (d - 10))

/-- The last `width` hexadecimal digits of `n`, the most significant first. -/
def hexDigits : Nat → Nat → List Char
  | 0, _ => []
  | width + 1, n => hexDigits width (n / 16) ++ [hexDigit (n % 16)]

/-- A code point written by its number, with the marker of the shortest of three widths. -/
def escapeCode (code : Nat) : List Char :=
  if code < 0x100 then '\\' :: 'x' :: hexDigits 2 code
  else if code < 0x10000 then '\\' :: 'u' :: hexDigits 4 code
  else '\\' :: 'U' :: hexDigits 8 code

/-- One character inside quotes `q`; `plain` says which characters stand as they are. -/
def quoteChar (q : Char) (plain : Char → Bool) (c : Char) : List Char :=
  if c = q ∨ c = '\\' then ['\\', c]
  else if c = '\t' then ['\\', 't']
  else if c = '\n' then ['\\', 'n']
  else if c = '\r' then ['\\', 'r']
  else if plain c then [c]
  else escapeCode c.toNat

/-- The quote mark for a content: double only where that saves escaping a single one. -/
def quoteMark (cs : List Char) : Char :=
  if cs.contains '\'' && !cs.contains '"' then '"' else '\''

def quoteChars (plain : Char → Bool) (cs : List Char) : List Char :=
  let q := quoteMark cs
  q :: cs.flatMap (quoteChar q plain) ++ [q]

def quote (s : String) : String := String.ofList (quoteChars isPrintable s.toList)

/-- Bytes are written like text of the code points 0 to 255, with only ASCII standing as it is. -/
def quoteBytes (bytes : List UInt8) : String :=
  let plain (c : Char) : Bool := 0x20 ≤ c.toNat && c.toNat < 0x7f
  "b" ++ String.ofList (quoteChars plain (bytes.map fun b => Char.ofNat b.toNat))

def hexOfBytes (bytes : List UInt8) : String :=
  String.ofList (bytes.flatMap fun b => hexDigits 2 b.toNat)

end Criteria.Text
