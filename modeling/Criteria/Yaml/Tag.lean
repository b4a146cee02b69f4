import Criteria.Text.Split

/-!
# Tags of YAML

A tag says what a node is. A plain text without a tag is tagged by its form: words for truth values,
numbers in several bases, numbers in base sixty, dates and moments, the merge mark and the default mark.
All other texts are texts.
-/

namespace Criteria.Yaml

inductive Tag where
  | null
  | bool
  | int
  | float
  | binary
  | timestamp
  | str
  | seq
  | map
  | set
  | omap
  | pairs
  /-- The key under which entries of other maps are taken over. -/
  | merge
  /-- The key of a map's default value. -/
  | value
  /-- A tag that stands for nothing. -/
  | unknown
  deriving DecidableEq, Repr, Inhabited

namespace Tag

def start : String := "tag:yaml.org,2002:"

def known : List (String × Tag) :=
  [("null", .null), ("bool", .bool), ("int", .int), ("float", .float), ("binary", .binary),
    ("timestamp", .timestamp), ("str", .str), ("seq", .seq), ("map", .map), ("set", .set),
    ("omap", .omap), ("pairs", .pairs), ("merge", .merge), ("value", .value)]

def ofName (name : String) : Tag :=
  ((known.find? fun k => start ++ k.1 == name).map (·.2)).getD .unknown

/-! ## Forms of plain texts -/

def isDigitOrBar (c : Char) : Bool := c.isDigit || c == '_'

def isSign (c : Char) : Bool := c == '-' || c == '+'

def dropSign : List Char → List Char
  | c :: rest => if isSign c then rest else c :: rest
  | [] => []

def isRun : List Char → Bool
  | c :: rest => c.isDigit && rest.all isDigitOrBar
  | [] => false

/-- A part of a number in base sixty behind its first one. -/
def isSixtieth : List Char → Bool
  | [d] => d.isDigit
  | [c, d] => '0' ≤ c && c ≤ '5' && d.isDigit
  | _ => false

/-- Parts with colons between them, of which all but the first are sixtieths. -/
def isSexagesimal (cs : List Char) : Bool :=
  match Text.splitAt ':' cs with
  | first :: p :: rest => isRun first && (p :: rest).all isSixtieth
  | _ => false

def isExponent : List Char → Bool
  | [] => true
  | e :: s :: digits =>
    (e == 'e' || e == 'E') && isSign s && !digits.isEmpty && digits.all Char.isDigit
  | _ => false

def isFraction (cs : List Char) : Bool := isExponent (cs.dropWhile isDigitOrBar)

def isFloat (cs : List Char) : Bool :=
  let body := dropSign cs
  let (before, behind) := (body.takeWhile (· ≠ '.'), body.dropWhile (· ≠ '.'))
  match behind with
  | [] => false
  | _ :: rest =>
    (isRun before && isFraction rest) ||
      (isSexagesimal before && rest.all isDigitOrBar) ||
      (cs.head? == some '.' && isRun (rest.takeWhile isDigitOrBar) && isFraction rest) ||
      (before.isEmpty && ["inf", "Inf", "INF"].contains (String.ofList rest)) ||
      (cs.head? == some '.' && ["nan", "NaN", "NAN"].contains (String.ofList rest))

def isInt (cs : List Char) : Bool :=
  match dropSign cs with
  | ['0'] => true
  | '0' :: 'b' :: digits => !digits.isEmpty && digits.all fun c => c == '0' || c == '1' || c == '_'
  | '0' :: 'x' :: digits =>
    !digits.isEmpty && digits.all fun c =>
      isDigitOrBar c || ('a' ≤ c && c ≤ 'f') || ('A' ≤ c && c ≤ 'F')
  | '0' :: digits => digits.all fun c => ('0' ≤ c && c ≤ '7') || c == '_'
  | body => isRun body || isSexagesimal body

def truthWords : List (String × Bool) :=
  [("yes", true), ("no", false), ("true", true), ("false", false), ("on", true), ("off", false)]

/-- A word in lower case, with a capital, or in capitals. -/
def isTruthWord (s : String) : Bool :=
  truthWords.any fun w => s == w.1 || s == w.1.capitalize || s == w.1.toUpper

def nullWords : List String := ["~", "null", "Null", "NULL", ""]

end Tag
end Criteria.Yaml
