import Criteria.Spec.Basic

/-!
# Attributes of specifications

The data that a node was made with, by name, as values. A child appears by its type and written form.
-/

namespace Criteria.Spec

def toValue (s : Spec) : Value := .object true s.typeName s.printed

def aliasValue (under : Option String) : Value := (under.map Value.str).getD .null

def predicateAttributes : Predicate → List (String × Value)
  | .compare _ r v => [("operator", .str r.sign), ("value", v)]
  | .member _ vs => [("values", .list vs)]
  | .isNull _ | .unsaid => []
  | .like p v => [("value", v), ("format", .str p.format)]
  | .between l h => [("low", l), ("high", h)]

def attributes : Spec → List (String × Value)
  | .filter a f p => [("field", .str f), ("alias", aliasValue a)] ++ predicateAttributes p
  | .countAbove _ a f v => [("field", .str f), ("threshold", v), ("target", aliasValue a)]
  | .conj cs | .disj cs => [("children", .list (cs.map toValue))]
  | .neg c | .having c => [("child", toValue c)]
  | .join _ a f n => [("field", .str f), ("new_alias", .str n), ("alias", aliasValue a)]
  | .limit n | .offset n => [("count", n)]
  | .orderBy a f d =>
    [("field", .str f), ("order", .str (if d = .ascending then "ASC" else "DESC")),
      ("alias", aliasValue a)]
  | .groupBy a f => [("field", .str f), ("alias", aliasValue a)]
  | .countOf c => [("child", (c.map toValue).getD .null)]
  | .base a | .named _ a _ | .namedForeign _ a _ => [("alias", aliasValue a)]
  | .distinct | .idle => []

def pattern? : Spec → Option String
  | .filter _ _ (.like p v) => some (p.pattern v)
  | _ => none

end Criteria.Spec
