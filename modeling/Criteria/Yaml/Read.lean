import Criteria.Yaml.Value

/-!
# Reading YAML

`Yaml.read?` reads a whole text, which holds at most one document. Every line end counts as a line feed.
-/

namespace Criteria.Yaml

/-- A line feed for every carriage return, with a line feed behind it or without. -/
def unifyLines : List Char → List Char
  | '\r' :: '\n' :: rest => '\n' :: unifyLines rest
  | '\r' :: rest => '\n' :: unifyLines rest
  | c :: rest => c :: unifyLines rest
  | [] => []

/-- The value of the document that a text holds; null if it holds none. -/
def read? (text : String) : Except Fault Value := do
  let cs := unifyLines text.toList
  if !cs.all isAllowed then throw (.document .characters)
  match ← (Node.ofTokens (Token.ofText (String.ofList cs))).mapError Fault.document with
  | none => return .null
  | some n => n.value

end Criteria.Yaml
