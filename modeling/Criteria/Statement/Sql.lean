import Criteria.Statement.Basic
import Criteria.Text.Identifier

/-!
# SQL text

A statement is first laid out as fragments: literal text, places for parameters, and labels still to
be numbered. One pass then numbers them in order and splits text from parameters. No fragment of text
depends on the values that a statement compares with: those stand in parameter places only.
-/

namespace Criteria

/-! ## Dialects -/

/-- The spelling of statements: the common one, in which parameters have names, or that of SQLite. -/
inductive Dialect where
  | common
  | sqlite
  deriving DecidableEq, Repr

namespace Dialect

def identifier (d : Dialect) (name : String) : String :=
  Text.identifier (match d with | .common => Text.commonReserved | .sqlite => Text.sqliteReserved)
    name

def truth (d : Dialect) (b : Bool) : String :=
  match d, b with
  | .common, b => if b then "true" else "false"
  | .sqlite, b => if b then "1" else "0"

end Dialect

/-! ## Fragments -/

/-- A piece of a statement. Parameters and labels are named after `base`, with a number that counts
the uses of that base in the statement. -/
inductive Fragment where
  | text (s : String)
  | parameter (base : String) (p : Parameter)
  /-- A place for a list of values. -/
  | parameters (base : String) (preparation : Preparation) (values : List Value)
  | label (base : String)

/-- Joins lists of fragments with a text between them. -/
def Fragment.separated (separator : String) : List (List Fragment) → List Fragment
  | [] => []
  | [f] => f
  | f :: rest => f ++ .text separator :: separated separator rest

section Layout

variable (d : Dialect)

/-! ### Columns and conditions -/

def layColumn (c : ColumnRef) : String :=
  d.identifier c.source.name ++ "." ++ d.identifier c.column.name

/-- The join condition of a relationship between two sources, with the users' side first. -/
def layLink (left : Source) (r : Relationship) (right : Source) : String :=
  let (users, posts) :=
    match r with
    | .posts => (left, right)
    | .author => (right, left)
  layColumn d ⟨users, userKey⟩ ++ " = " ++ layColumn d ⟨posts, authorKey⟩

def layTerm : Term → String
  | .column c => layColumn d c
  | .link s r => layLink d s r (.table r.target)

def laySubject : Subject → String
  | .column c => layColumn d c
  | .count t => "count(" ++ layTerm d t ++ ")"

def subjectBase : Subject → String
  | .column c => c.column.name
  | .count _ => "count"

def relationText : Relation → String
  | .eq => " = "
  | .ne => " != "
  | .lt => " < "
  | .le => " <= "
  | .gt => " > "
  | .ge => " >= "

def layValue (base : String) (type : ColumnType) (v : Value) : Fragment :=
  .parameter base ⟨.forValue type v, v⟩

mutual

def layClause : Clause → List Fragment
  | .compare r s v =>
    [.text (laySubject d s ++ relationText r), layValue (subjectBase s) s.type v]
  | .constant n s b =>
    [.text (laySubject d s ++ (if n then " != " else " = ") ++ d.truth b)]
  | .isNull n s => [.text (laySubject d s ++ (if n then " IS NOT NULL" else " IS NULL"))]
  | .like n c p =>
    [.text (layColumn d c ++ (if n then " NOT LIKE " else " LIKE ")),
      layValue c.column.name c.column.type (.str p)]
  | .between n c l h =>
    [.text (layColumn d c ++ (if n then " NOT BETWEEN " else " BETWEEN ")),
      layValue c.column.name c.column.type l, .text " AND ",
      layValue c.column.name c.column.type h]
  | .member n c vs =>
    [.text (if n then "(" ++ layColumn d c ++ " NOT IN (" else layColumn d c ++ " IN ("),
      .parameters c.column.name (.forValues c.column.type vs) vs,
      .text (if n then "))" else ")")]
  | .related s =>
    [.text ("EXISTS (SELECT 1 \nFROM " ++ d.identifier Entity.post.table ++ " \nWHERE " ++
      layLink d s .posts (.table .post) ++ ")")]
  | .missing => [.text "NULL"]
  | .decided b =>
    [.text (match d with | .common => d.truth b | .sqlite => d.truth b ++ " = " ++ d.truth true)]
  | .conj cs => Fragment.separated " AND " (layConjuncts cs)
  | .disj cs => Fragment.separated " OR " (layDisjuncts cs)
  | .negation c => .text "NOT (" :: layClause c ++ [.text ")"]

/-- The parts of a conjunction: inner conjunctions are part of it, disjunctions are bracketed. -/
def layConjuncts : List Clause → List (List Fragment)
  | [] => []
  | .conj cs :: rest => layConjuncts cs ++ layConjuncts rest
  | .disj cs :: rest =>
    (.text "(" :: Fragment.separated " OR " (layDisjuncts cs) ++ [.text ")"]) :: layConjuncts rest
  | c :: rest => layClause c :: layConjuncts rest

/-- The parts of a disjunction: inner disjunctions are part of it, conjunctions bind closer. -/
def layDisjuncts : List Clause → List (List Fragment)
  | [] => []
  | .disj cs :: rest => layDisjuncts cs ++ layDisjuncts rest
  | c :: rest => layClause c :: layDisjuncts rest

end

def layConditions : List Clause → List Fragment
  | [] => []
  | [c] => layClause d c
  | cs => Fragment.separated " AND " (layConjuncts d cs)

/-! ### Selected items -/

/-- A column of the select list: its table, itself, and the label asked for. -/
abbrev Selected := Entity × Column × Option String

/-- The columns that an item selects: an entity leaves out those already selected from its table. -/
def selectedBy (taken : List Selected) : SelectItem → List (Option Selected × Option String)
  | .entity e =>
    (e.columns.filter fun c => !taken.contains (e, c, none)).map fun c => (some (e, c, none), none)
  | .column e c label => [(some (e, c, label), none)]
  | .count label => [(none, label)]

def selectList (items : List SelectItem) : List (Option Selected × Option String) :=
  items.foldl (fun out i => out ++ selectedBy (out.filterMap (·.1)) i) []

/-- One column of the select list. A second column of the same name gets a numbered label: one base
for a column of another table, another for the very same column. -/
def laySelected (before : List Selected) : Selected → List Fragment
  | (e, c, some label) =>
    [.text (layColumn d ⟨.table e, c⟩ ++ " AS " ++ d.identifier label)]
  | (e, c, none) =>
    let name := layColumn d ⟨.table e, c⟩
    if before.contains (e, c, none) then [.text (name ++ " AS "), .label (c.name ++ "_")]
    else if before.any fun b => b.2.1.name == c.name && b.2.2.isNone then
      [.text (name ++ " AS "), .label c.name]
    else [.text name]

def laySelectList (before : List Selected) :
    List (Option Selected × Option String) → List (List Fragment)
  | [] => []
  | (some c, _) :: rest => laySelected d before c :: laySelectList (before ++ [c]) rest
  | (none, some label) :: rest =>
    [.text ("count(*) AS " ++ d.identifier label)] :: laySelectList before rest
  | (none, none) :: rest => [.text "count(*) AS ", .label "count"] :: laySelectList before rest

/-! ### Tables -/

def laySource : Source → String
  | .table e => d.identifier e.table
  | .joined a e => d.identifier e.table ++ " AS " ++ d.identifier a

def layJoin (j : JoinStep) : String :=
  (if j.outer then " LEFT OUTER JOIN " else " JOIN ") ++ laySource d j.target ++ " ON " ++
    layLink d j.left j.relationship j.target

def layTree (t : Statement.JoinTree) : String :=
  laySource d t.root ++ String.join (t.joins.map (layJoin d))

/-! ### The whole statement -/

def laySortKey (k : SortKey) : String :=
  layTerm d k.term ++
    match k.direction with
    | none => ""
    | some .ascending => " ASC"
    | some .descending => " DESC"

def layCount (n : Int) : Fragment := .parameter "param" ⟨.plain, .int n⟩

/-- Limit and offset. SQLite always writes both. -/
def layPaging (limit offset : Option Int) : List Fragment :=
  match d, limit, offset with
  | _, none, none => []
  | _, some l, some o => [.text "\n LIMIT ", layCount l, .text " OFFSET ", layCount o]
  | .common, some l, none => [.text "\n LIMIT ", layCount l]
  | .sqlite, some l, none => [.text "\n LIMIT ", layCount l, .text " OFFSET ", layCount 0]
  | .common, none, some o => [.text "\n LIMIT -1 OFFSET ", layCount o]
  | .sqlite, none, some o => [.text "\n LIMIT ", layCount (-1), .text " OFFSET ", layCount o]

/-- A part of a statement behind its keyword, or nothing where the part is empty. -/
def layPart (keyword : String) (parts : List Fragment) : List Fragment :=
  if parts.isEmpty then [] else .text keyword :: parts

def layTexts (parts : List String) : List Fragment :=
  if parts.isEmpty then [] else [.text (", ".intercalate parts)]

def layStatement (s : Statement) : List Fragment :=
  .text (if s.distinct then "SELECT DISTINCT " else "SELECT ") ::
    Fragment.separated ", " (laySelectList d [] (selectList s.items)) ++
    layPart " \nFROM " (layTexts (s.trees.map (layTree d))) ++
    layPart " \nWHERE " (layConditions d s.conditions) ++
    layPart " GROUP BY " (layTexts (s.grouping.map (layTerm d))) ++
    layPart " \nHAVING " (layConditions d s.groupConditions) ++
    layPart " ORDER BY " (layTexts (s.sorting.map (laySortKey d))) ++
    layPaging d s.limit s.offset

end Layout

/-! ## Numbering -/

/-- The text of a statement and its named parameters, in order. -/
structure Sql where
  text : String
  parameters : List (String × Value)

abbrev Uses := List (String × Nat)

/-- The next name of a base, and the uses after it. -/
def Uses.next (u : Uses) (base : String) : String × Uses :=
  let n := (u.lookup base).getD 0 + 1
  (base ++ "_" ++ toString n, (base, n) :: u)

/-- Numbers fragments from left to right. -/
def Sql.ofFragments (d : Dialect) (u : Uses) : List Fragment → Sql
  | [] => ⟨"", []⟩
  | .text s :: rest =>
    let q := ofFragments d u rest
    ⟨s ++ q.text, q.parameters⟩
  | .label base :: rest =>
    let (name, u) := u.next base
    let q := ofFragments d u rest
    ⟨name ++ q.text, q.parameters⟩
  | .parameter base p :: rest =>
    let (name, u) := u.next base
    let q := ofFragments d u rest
    ⟨(match d with | .common => ":" ++ name | .sqlite => "?") ++ q.text,
      (name, p.value) :: q.parameters⟩
  | .parameters base _ values :: rest =>
    let (name, u) := u.next base
    let q := ofFragments d u rest
    ⟨"__[POSTCOMPILE_" ++ name ++ "]" ++ q.text, (name, .list values) :: q.parameters⟩

def Statement.sql (d : Dialect) (s : Statement) : Sql := Sql.ofFragments d [] (layStatement d s)

def Clause.sql (d : Dialect) (c : Clause) : Sql := Sql.ofFragments d [] (layClause d c)

/-- The parameters that SQLite binds for a statement, in order, with lists spread out. -/
def Statement.boundParameters (s : Statement) : List Parameter :=
  (layStatement .sqlite s).flatMap fun
    | .parameter _ p => [p]
    | .parameters _ preparation values => values.map (⟨preparation, ·⟩)
    | _ => []

end Criteria
