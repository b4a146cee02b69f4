import Criteria.Proofs.Spec.Scope
import Criteria.Statement.Rows

/-!
# The meaning of a tree on a row

What a tree of filters says about a joined row, by recursion on the tree itself and in three-valued logic
(`Spec.truth?`): a leaf asks the cell of its field, conjunction is the minimum and disjunction the maximum
of those children that say anything, negation reverses. Joins, orders and empty nodes say nothing.

`truth?_of_clause?` is the correctness of the compiled condition: on every row it has the truth of the tree,
and there is one exactly if the tree says anything.
-/

namespace Criteria

/-! ## Leaves -/

/-- The truth of a predicate about the cell of a column. -/
def Predicate.ofCell (type : ColumnType) (c : Cell) : Predicate → Truth
  | .compare _ .eq .null => Truth.ofBool (c = .null)
  | .compare _ .ne .null => Truth.ofBool (c ≠ .null)
  | .compare _ .eq (.bool b) => Cell.relate (some type) (· == .eq) c (.ofBool b)
  | .compare _ .ne (.bool b) => Cell.relate (some type) (· != .eq) c (.ofBool b)
  | .compare _ r v => Cell.relate (some type) r.test c (v.beside type)
  | .member n vs => negateIf n (Cell.memberOf type c (vs.map (cellOf (.forValues type vs))))
  | .isNull n => negateIf n (Truth.ofBool (c = .null))
  | .like p v => c.likePattern (p.pattern v)
  | .between l h =>
    (Cell.relate (some type) (· != .lt) c (l.beside type)).and
      (Cell.relate (some type) (· != .gt) c (h.beside type))
  | .unsaid => .unknown

/-- Whether a relationship leads anywhere from the record of a source: to a post that the user wrote, or to
the author whom the post names. -/
def Relationship.present (db : Database) (row : Row) (s : Source) : Relationship → Truth
  | .posts =>
    Truth.ofBool ((row.record? s).any fun user => db.posts.any fun post => (wrote user post).holds)
  | .author => Truth.ofBool (row.cell ⟨s, authorKey⟩ ≠ .null)

/-- What the store is asked about a relationship. It reaches the posts by the name of their table: a source
of the same name is hidden by it, and then the question is about the posts alone. -/
def Relationship.asked (db : Database) (row : Row) (s : Source) : Relationship → Truth
  | .posts =>
    if sameName s.name Entity.post.table then Truth.ofBool (db.posts.any ownAuthor)
    else Relationship.posts.present db row s
  | .author => Relationship.author.present db row s

/-- The truth of a predicate about a relationship, of which only the presence can be asked for. -/
def Predicate.ofRelationship (present : Truth) : Predicate → Truth
  | .compare _ .eq .null => present.not
  | .compare _ .ne .null => present
  | _ => .unknown

/-- The truth of a predicate about an attribute of a class, which is the same on every row. -/
def Predicate.ofAttribute (a : Attribute) : Predicate → Truth
  | .compare _ r v => ((compareAttribute r a v).toOption.map Truth.ofBool).getD .unknown
  | _ => .unknown

/-- The truth of a leaf: its predicate about what its field is on the row. -/
def Predicate.truth (present : Source → Relationship → Truth) (names : List (String × Source)) (row : Row)
    (under field : String) (p : Predicate) : Truth :=
  match names.lookup under with
  | none => .unknown
  | some s =>
    match s.entity.field? field with
    | some (.column c) => p.ofCell c.type (row.cell ⟨s, c⟩)
    | some (.relationship r) => p.ofRelationship (present s r)
    | some (.plain a) => p.ofAttribute a
    | none => .unknown

/-! ## Trees -/

namespace Spec

mutual

/-- Whether a tree consists of leaf filters, logical nodes, joins, orders, empty nodes and reusable
specifications only: nothing in it pages, groups, counts or changes what is selected. -/
def isRetrieval : Spec → Bool
  | .filter _ _ _ | .join _ _ _ _ | .orderBy _ _ _ | .idle | .base _ | .namedForeign _ _ _ => true
  | .conj cs | .disj cs => areRetrievals cs
  | .neg c | .named _ _ c => isRetrieval c
  | _ => false

def areRetrievals : List Spec → Bool
  | [] => true
  | s :: rest => isRetrieval s && areRetrievals rest

end

theorem areRetrievals_eq (ss : List Spec) : areRetrievals ss = ss.all isRetrieval := by
  induction ss with
  | nil => rfl
  | cons s rest ih => rw [areRetrievals, ih, List.all_cons]

/-- What several children say together: nothing if none of them says anything. -/
def together (f : List Truth → Truth) : List Truth → Option Truth
  | [] => none
  | ts => some (f ts)

section Meaning

variable (present : Source → Relationship → Truth) (names : List (String × Source)) (row : Row)

mutual

/-- What a tree says about a row under an alias; none if it contains no filter. -/
def truth? (under : String) : Spec → Option Truth
  | .filter a f p => some (p.truth present names row (effectiveAlias a under) f)
  | .conj cs => together Truth.all (truths under cs)
  | .disj cs => together Truth.any (truths under cs)
  | .neg c => (truth? under c).map Truth.not
  | .named _ a c => truth? (effectiveAlias a under) c
  | _ => none

/-- What those children say that say anything. -/
def truths (under : String) : List Spec → List Truth
  | [] => []
  | s :: rest => (truth? under s).toList ++ truths under rest

end

/-- Whether a tree accepts a row: what it says is true, or it says nothing. -/
def accepts (under : String) (s : Spec) : Bool :=
  ((s.truth? present names row under).getD .yes).holds

end Meaning
end Spec

/-! ### What is asked about relationships -/

section Presence

variable {present present' : Source → Relationship → Truth} {names : List (String × Source)} {row : Row}

theorem Predicate.truth_congr
    (hpresent : ∀ a s r, names.lookup a = some s → r.owner = s.entity → present s r = present' s r)
    (under field : String) (p : Predicate) :
    p.truth present names row under field = p.truth present' names row under field := by
  unfold Predicate.truth
  cases hs : names.lookup under with
  | none => rfl
  | some s =>
      simp only
      cases hf : s.entity.field? field with
      | none => rfl
      | some f =>
          cases f with
          | relationship r =>
              have howner := (owner_of_relationship? (field?_eq_relationship.mp hf)).1
              simp only [hpresent under s r hs howner]
          | column c | plain a => rfl

mutual

/-- Trees say the same where the relationships of their sources are asked for in the same way. -/
theorem Spec.truth?_congr
    (hpresent : ∀ a s r, names.lookup a = some s → r.owner = s.entity → present s r = present' s r)
    (under : String) (s : Spec) :
    s.truth? present names row under = s.truth? present' names row under := by
  match s with
  | .filter a f p => simp only [Spec.truth?, Predicate.truth_congr hpresent]
  | .conj cs | .disj cs => simp only [Spec.truth?, Spec.truths_congr hpresent under cs]
  | .neg c => simp only [Spec.truth?, Spec.truth?_congr hpresent under c]
  | .named t a c => exact Spec.truth?_congr hpresent _ c
  | .countAbove _ _ _ _ | .join _ _ _ _ | .limit _ | .offset _ | .orderBy _ _ _ | .groupBy _ _
  | .distinct | .having _ | .countOf _ | .idle | .base _ | .namedForeign _ _ _ => rfl

theorem Spec.truths_congr
    (hpresent : ∀ a s r, names.lookup a = some s → r.owner = s.entity → present s r = present' s r)
    (under : String) (ss : List Spec) :
    Spec.truths present names row under ss = Spec.truths present' names row under ss := by
  match ss with
  | [] => rfl
  | s :: rest =>
      simp only [Spec.truths, Spec.truth?_congr hpresent under s, Spec.truths_congr hpresent under rest]

end

end Presence

/-! ## Clauses -/

section Clauses

variable {db : Database} {group : List Row} {row : Row}

theorem negateIf_not (n : Bool) (t : Truth) : negateIf (!n) t = (negateIf n t).not := by
  cases n <;> simp [negateIf]

theorem Cell.relate_not (type : Option ColumnType) (test : Ordering → Bool) (c v : Cell) :
    Cell.relate type (fun o => !test o) c v = (Cell.relate type test c v).not := by
  have hof : ∀ b : Bool, Truth.ofBool (!b) = (Truth.ofBool b).not := by decide
  cases c <;> cases v <;> simp [Cell.relate, hof, Truth.not]

/-- Negating a clause reverses its truth. -/
theorem Clause.truth_negate (c : Clause) :
    Clause.truth db group row c.negate = (Clause.truth db group row c).not := by
  cases c with
  | compare r s v =>
      have hflip : r.flip.test = fun o => !r.test o := funext r.test_flip
      simp only [negate, truth, hflip, Cell.relate_not]
  | constant n s b => simp [negate, truth, negateIf_not]
  | isNull n s => simp [negate, truth, negateIf_not]
  | like n c p => simp [negate, truth, negateIf_not]
  | between n c l h => simp [negate, truth, negateIf_not]
  | member n c vs => simp [negate, truth, negateIf_not]
  | decided b => cases b <;> rfl
  | related s | missing | conj cs | disj cs | negation c => simp only [negate, truth]

theorem Clause.truthAll_eq (cs : List Clause) :
    Clause.truthAll db group row cs = Truth.all (cs.map (Clause.truth db group row)) := by
  induction cs with
  | nil => rfl
  | cons c rest ih => simp [truthAll, ih, Truth.all]

theorem Clause.truthAny_eq (cs : List Clause) :
    Clause.truthAny db group row cs = Truth.any (cs.map (Clause.truth db group row)) := by
  induction cs with
  | nil => rfl
  | cons c rest ih => simp [truthAny, ih, Truth.any]

@[simp] theorem Truth.all_singleton (t : Truth) : Truth.all [t] = t := by cases t <;> rfl

@[simp] theorem Truth.any_singleton (t : Truth) : Truth.any [t] = t := by cases t <;> rfl

/-- A conjunction of one clause is the clause, and one of none is no clause. -/
theorem truth_combine_conj (cs : List Clause) :
    (Spec.combine .conj cs).map (Clause.truth db group row) =
      Spec.together Truth.all (cs.map (Clause.truth db group row)) := by
  rcases cs with _ | ⟨c, _ | ⟨d, rest⟩⟩
  · rfl
  · simp [Spec.combine, Spec.together]
  · simp only [Spec.combine, Option.map_some, Clause.truth, Clause.truthAll_eq]
    rfl

theorem truth_combine_disj (cs : List Clause) :
    (Spec.combine .disj cs).map (Clause.truth db group row) =
      Spec.together Truth.any (cs.map (Clause.truth db group row)) := by
  rcases cs with _ | ⟨c, _ | ⟨d, rest⟩⟩
  · rfl
  · simp [Spec.combine, Spec.together]
  · simp only [Spec.combine, Option.map_some, Clause.truth, Clause.truthAny_eq]
    rfl

/-! ### Leaves -/

/-- On a column a clause says of a row what its predicate says of the cell. -/
theorem truth_of_onColumn {ref : ColumnRef} {p : Predicate} {c : Clause}
    (h : p.onColumn ref = .ok c) :
    Clause.truth db group row c = p.ofCell ref.column.type (row.cell ref) := by
  have hne : ∀ cell : Cell, (Truth.ofBool (cell = .null)).not = Truth.ofBool (cell ≠ .null) := by
    intro cell
    by_cases hcell : cell = .null <;> simp [hcell, Truth.ofBool, Truth.not]
  cases p with
  | compare named r v =>
      cases v with
      | null =>
          -- Only equality and its opposite can be asked of a missing value, or of a truth value.
          cases r <;> cases h
          · rfl
          · exact hne _
      | bool b =>
          cases r <;> cases h
          · rfl
          · exact (Cell.relate_not _ (· == .eq) _ _).symm
      | _ => cases r <;> cases h <;> rfl
  | member n vs =>
      cases h
      rfl
  | isNull n =>
      cases h
      rfl
  | like p v =>
      cases h
      rfl
  | between l h' =>
      cases h
      rfl
  | unsaid => cases h

/-- The condition that a source has, or has no, related entity. -/
theorem truth_relatedClause (s : Source) (r : Relationship) (present : Bool) :
    Clause.truth db group row (Predicate.relatedClause s r present) =
      negateIf (!present) (r.asked db row s) := by
  have hasked : Clause.truth db group row (.related s) = Relationship.posts.asked db row s := by
    simp only [Clause.truth, Relationship.asked, Relationship.present]
    split
    · rfl
    · cases row.record? s <;> rfl
  cases r with
  | posts =>
      cases present
      · show (Clause.truth db group row (.related s)).not = _
        rw [hasked]
        rfl
      · exact hasked
  | author =>
      cases present <;> by_cases hcell : row.cell ⟨s, authorKey⟩ = .null <;>
        simp [Predicate.relatedClause, Clause.truth, Subject.cell, Relationship.asked,
          Relationship.present, negateIf, Truth.ofBool, Truth.not, hcell]

/-- On a relationship it says what its predicate says of the presence asked for. -/
theorem truth_of_onRelationship {s : Source} {r : Relationship} {p : Predicate} {c : Clause}
    (h : p.onRelationship s r = .ok c) :
    Clause.truth db group row c = p.ofRelationship (r.asked db row s) := by
  cases p with
  | compare named rel v =>
      cases rel <;> cases v <;> cases h <;> exact truth_relatedClause s r _
  | member n vs | isNull n | like p v | between l h' | unsaid => cases h

/-- On a plain attribute it says the same of every row. -/
theorem truth_of_onAttribute {a : Attribute} {p : Predicate} {c : Clause} (h : p.onAttribute a = .ok c) :
    Clause.truth db group row c = p.ofAttribute a := by
  cases p with
  | compare named r v =>
      obtain ⟨b, hb, h⟩ := bind_eq_ok.mp h
      cases h
      simp [Predicate.ofAttribute, hb, Clause.truth, Except.toOption]
  | member n vs | isNull n | like p v | between l u | unsaid => cases h

/-- The condition of a leaf has the truth of its predicate. -/
theorem truth_of_leafClause {b : Builder} {under field : String} {p : Predicate} {c : Clause}
    (h : Spec.leafClause b under field p = .ok c) :
    Clause.truth db group row c =
      p.truth (Relationship.asked db row) b.aliases row under field := by
  obtain ⟨⟨s, f⟩, hfield, hclause⟩ := bind_eq_ok.mp h
  obtain ⟨hsource, hf⟩ := Builder.field_eq_ok.mp hfield
  cases f with
  | column col => simp [Predicate.truth, hsource, hf, truth_of_onColumn hclause]
  | relationship r => simp [Predicate.truth, hsource, hf, truth_of_onRelationship hclause]
  | plain a => simp [Predicate.truth, hsource, hf, truth_of_onAttribute hclause]

/-! ### Trees -/

mutual

/-- **The condition of a tree has its meaning.** On every row the condition that is built for a tree has the
truth of the tree, and there is one exactly if the tree says anything. -/
theorem truth?_of_clause? {b : Builder} {under : String} {s : Spec} {c : Option Clause}
    (hs : s.isRetrieval = true) (h : s.clause? b under = .ok c) :
    c.map (Clause.truth db group row) =
      s.truth? (Relationship.asked db row) b.aliases row under := by
  match s with
  | .filter a f p =>
      obtain ⟨d, hd, hc⟩ := bind_eq_ok.mp h
      cases hc
      rw [Option.map_some, truth_of_leafClause hd]
      rfl
  | .conj cs =>
      obtain ⟨ds, hds, hc⟩ := bind_eq_ok.mp h
      cases hc
      rw [truth_combine_conj, truths_of_clauses hs hds]
      rfl
  | .disj cs =>
      obtain ⟨ds, hds, hc⟩ := bind_eq_ok.mp h
      cases hc
      rw [truth_combine_disj, truths_of_clauses hs hds]
      rfl
  | .neg child =>
      -- A child that says nothing has no condition, and then there is none to negate.
      obtain ⟨d, hd, hc⟩ := bind_eq_ok.mp h
      cases hc
      rw [Spec.truth?, ← truth?_of_clause? (s := child) hs hd]
      cases d with
      | none => rfl
      | some d => exact congrArg some (Clause.truth_negate d)
  | .named t a child => exact truth?_of_clause? (s := child) hs h
  | .join _ _ _ _ | .orderBy _ _ _ | .idle | .base _ | .namedForeign _ _ _ =>
      cases h
      rfl
  | .countAbove _ _ _ _ | .limit _ | .offset _ | .groupBy _ _ | .distinct | .having _ | .countOf _ =>
      cases hs

/-- The clauses of several trees say what these say. -/
theorem truths_of_clauses {b : Builder} {under : String} {ss : List Spec} {cs : List Clause}
    (hs : Spec.areRetrievals ss = true) (h : Spec.clauses b under ss = .ok cs) :
    cs.map (Clause.truth db group row) =
      Spec.truths (Relationship.asked db row) b.aliases row under ss := by
  match ss with
  | [] =>
      cases h
      rfl
  | s :: rest =>
      obtain ⟨c, hc, h⟩ := bind_eq_ok.mp h
      obtain ⟨ds, hds, h⟩ := bind_eq_ok.mp h
      cases h
      obtain ⟨hfirst, hrest⟩ := Bool.and_eq_true_iff.mp hs
      rw [Spec.truths, ← truth?_of_clause? hfirst hc, ← truths_of_clauses hrest hds]
      cases c <;> rfl

end

/-- A row passes the condition of a tree exactly if the tree accepts it. -/
theorem holds_of_clause? {b : Builder} {under : String} {s : Spec} {c : Option Clause}
    (hs : s.isRetrieval = true) (h : s.clause? b under = .ok c) :
    (Clause.truthAll db group row c.toList).holds =
      s.accepts (Relationship.asked db row) b.aliases row under := by
  have htruth : c.map (Clause.truth db group row) = _ := truth?_of_clause? hs h
  rw [Spec.accepts, ← htruth, Clause.truthAll_eq]
  cases c with
  | none => rfl
  | some c => simp

end Clauses

end Criteria
