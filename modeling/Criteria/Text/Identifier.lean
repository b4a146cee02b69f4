/-!
# SQL identifiers

A name stands bare in a statement if it is a lower-case word of letters, digits, `_` and `$` that
does not start with a digit or `$` and is not reserved; otherwise it stands in double quotes, with a
double quote in it written twice. The two dialects differ in their reserved words.
-/

namespace Criteria.Text

def commonReserved : List String :=
  ["all", "analyse", "analyze", "and", "any", "array", "as", "asc", "asymmetric", "authorization",
    "between", "binary", "both", "case", "cast", "check", "collate", "column", "constraint",
    "create", "cross", "current_date", "current_role", "current_time", "current_timestamp",
    "current_user", "default", "deferrable", "desc", "distinct", "do", "else", "end", "except",
    "false", "for", "foreign", "freeze", "from", "full", "grant", "group", "having", "ilike", "in",
    "initially", "inner", "intersect", "into", "is", "isnull", "join", "leading", "left", "like",
    "limit", "localtime", "localtimestamp", "natural", "new", "not", "notnull", "null", "off",
    "offset", "old", "on", "only", "or", "order", "outer", "overlaps", "placing", "primary",
    "references", "right", "select", "session_user", "set", "similar", "some", "symmetric",
    "table", "then", "to", "trailing", "true", "union", "unique", "user", "using", "verbose",
    "when", "where"]

def sqliteReserved : List String :=
  ["add", "after", "all", "alter", "analyze", "and", "as", "asc", "attach", "autoincrement",
    "before", "begin", "between", "by", "cascade", "case", "cast", "check", "collate", "column",
    "commit", "conflict", "constraint", "create", "cross", "current_date", "current_time",
    "current_timestamp", "database", "default", "deferrable", "deferred", "delete", "desc",
    "detach", "distinct", "drop", "each", "else", "end", "escape", "except", "exclusive",
    "exists", "explain", "false", "fail", "for", "foreign", "from", "full", "glob", "group",
    "having", "if", "ignore", "immediate", "in", "index", "indexed", "initially", "inner",
    "insert", "instead", "intersect", "into", "is", "isnull", "join", "key", "left", "like",
    "limit", "match", "natural", "not", "notnull", "null", "of", "offset", "on", "or", "order",
    "outer", "plan", "pragma", "primary", "query", "raise", "references", "reindex", "rename",
    "replace", "restrict", "right", "rollback", "row", "select", "set", "table", "temp",
    "temporary", "then", "to", "transaction", "trigger", "true", "union", "unique", "update",
    "using", "vacuum", "values", "view", "virtual", "when", "where"]

def isPlainNameChar (c : Char) : Bool := c.isAlphanum || c == '_' || c == '$'

def isBareName (reserved : List String) (name : String) : Bool :=
  match name.toList with
  | [] => false
  | c :: rest =>
    !reserved.contains name && !(c.isDigit || c == '$') && (c :: rest).all fun d =>
      isPlainNameChar d && !d.isUpper

def quotedName (name : String) : String :=
  let inner := name.toList.flatMap fun c => if c = '"' then ['"', '"'] else [c]
  String.ofList ('"' :: inner ++ ['"'])

def identifier (reserved : List String) (name : String) : String :=
  if isBareName reserved name then name else quotedName name

end Criteria.Text
