/-!
# Pattern matching

`%` in a pattern stands for any characters, `_` for one, and every other character for itself, with
ASCII letters of either case alike. A text ends at its first NUL character.
-/

namespace Criteria.Text

def alike (c d : Char) : Bool := c.toLower == d.toLower

/-- Whether some end of a text has a property, the whole text and the empty end included. -/
def anyEnd (p : List Char → Bool) : List Char → Bool
  | [] => p []
  | c :: rest => p (c :: rest) || anyEnd p rest

def fits : List Char → List Char → Bool
  | [] => fun text => text.isEmpty
  | '%' :: pattern => anyEnd (fits pattern)
  | p :: pattern => fun text =>
    match text with
    | [] => false
    | c :: rest => (p == '_' || alike p c) && fits pattern rest

def beforeNul (s : String) : List Char := s.toList.takeWhile (· ≠ '\x00')

def like (pattern text : String) : Bool := fits (beforeNul pattern) (beforeNul text)

end Criteria.Text
