import Criteria.Proofs.Statement.Negation

/-!
# Nested clauses of one connective

A conjunction that is a part of a conjunction says what its own parts would say in its place, and so does a
disjunction within a disjunction. In the flat form of a clause (`Clause.flat`) no such nesting is left. A clause
is laid out as its flat form, is about the same columns and has the same truth, so that statements of one flat form
have one text and one list of parameters (`Statement.sql_flat`) and run alike (`Statement.run_flat`).
-/

namespace Criteria

/-! ## Flat clauses -/

namespace Clause

mutual

/-- A clause whose nested conjunctions are taken apart, and its nested disjunctions. -/
def flat : Clause → Clause
  | .conj cs => .conj (conjunctsOf (flatAll cs))
  | .disj cs => .disj (disjunctsOf (flatAll cs))
  | .negation c => .negation (flat c)
  | c => c

def flatAll : List Clause → List Clause
  | [] => []
  | c :: rest => flat c :: flatAll rest

end

theorem flatAll_eq (cs : List Clause) : flatAll cs = cs.map flat := by
  induction cs with
  | nil => rfl
  | cons c rest ih => rw [flatAll, ih, List.map_cons]

theorem flat_negate (c : Clause) : c.negate.flat = c.flat.negate := by
  cases c <;> rfl

/-! ### Parts -/

theorem conjunctsOf_eq (cs : List Clause) : conjunctsOf cs = cs.flatMap conjuncts :=
  eq_flatMap rfl (fun _ _ => rfl) cs

theorem disjunctsOf_eq (cs : List Clause) : disjunctsOf cs = cs.flatMap disjuncts :=
  eq_flatMap rfl (fun _ _ => rfl) cs

section Parts

variable {α : Type} {op : α → α → α} {f : List Clause → α}

mutual

/-- What is read off a list part by part is read off the parts of nested conjunctions instead, if a conjunction
gives what its parts give. -/
theorem of_conjunctsOf (happend : ∀ cs ds, f (cs ++ ds) = op (f cs) (f ds)) (hconj : ∀ cs, f [.conj cs] = f cs)
    (cs : List Clause) : f (conjunctsOf cs) = f cs := by
  match cs with
  | [] => rfl
  | c :: rest =>
      rw [conjunctsOf, happend, of_conjuncts happend hconj c, of_conjunctsOf happend hconj rest, ← happend]
      rfl

/-- What takes appending to an operation, and a conjunction for its parts, does not see how conjunctions are
nested. -/
theorem of_conjuncts (happend : ∀ cs ds, f (cs ++ ds) = op (f cs) (f ds)) (hconj : ∀ cs, f [.conj cs] = f cs)
    (c : Clause) : f (conjuncts c) = f [c] := by
  match c with
  | .conj cs => rw [conjuncts, of_conjunctsOf happend hconj cs, hconj]
  | .disj _ | .negation _ | .compare _ _ _ | .constant _ _ _ | .isNull _ _ | .like _ _ _
  | .between _ _ _ _ | .member _ _ _ | .related _ | .missing | .decided _ => rfl

end

mutual

/-- Likewise for nested disjunctions. -/
theorem of_disjunctsOf (happend : ∀ cs ds, f (cs ++ ds) = op (f cs) (f ds)) (hdisj : ∀ cs, f [.disj cs] = f cs)
    (cs : List Clause) : f (disjunctsOf cs) = f cs := by
  match cs with
  | [] => rfl
  | c :: rest =>
      rw [disjunctsOf, happend, of_disjuncts happend hdisj c, of_disjunctsOf happend hdisj rest, ← happend]
      rfl

theorem of_disjuncts (happend : ∀ cs ds, f (cs ++ ds) = op (f cs) (f ds)) (hdisj : ∀ cs, f [.disj cs] = f cs)
    (c : Clause) : f (disjuncts c) = f [c] := by
  match c with
  | .disj cs => rw [disjuncts, of_disjunctsOf happend hdisj cs, hdisj]
  | .conj _ | .negation _ | .compare _ _ _ | .constant _ _ _ | .isNull _ _ | .like _ _ _
  | .between _ _ _ _ | .member _ _ _ | .related _ | .missing | .decided _ => rfl

end

end Parts

theorem conjunctsOf_append (cs ds : List Clause) :
    conjunctsOf (cs ++ ds) = conjunctsOf cs ++ conjunctsOf ds := by
  simp only [conjunctsOf_eq, List.flatMap_append]

theorem disjunctsOf_append (cs ds : List Clause) :
    disjunctsOf (cs ++ ds) = disjunctsOf cs ++ disjunctsOf ds := by
  simp only [disjunctsOf_eq, List.flatMap_append]

/-- The parts of nested conjunctions have no parts themselves. -/
theorem conjunctsOf_conjunctsOf (cs : List Clause) : conjunctsOf (conjunctsOf cs) = conjunctsOf cs :=
  of_conjunctsOf conjunctsOf_append (fun _ => List.append_nil _) cs

theorem disjunctsOf_disjunctsOf (cs : List Clause) : disjunctsOf (disjunctsOf cs) = disjunctsOf cs :=
  of_disjunctsOf disjunctsOf_append (fun _ => List.append_nil _) cs

/-- **A conjunction among the parts of a conjunction** can give its place to its own parts. -/
theorem flat_conj_nested (cs ds es : List Clause) :
    (conj (cs ++ conj ds :: es)).flat = (conj (cs ++ ds ++ es)).flat := by
  have hnested : conjuncts (conj (conjunctsOf (ds.map flat))) = conjunctsOf (ds.map flat) :=
    conjunctsOf_conjunctsOf _
  simp only [flat, flatAll_eq, List.map_append, List.map_cons, conjunctsOf_append, conjunctsOf, hnested,
    List.append_assoc]

/-- A disjunction in a disjunction has the flat form of its parts in the place of it. -/
theorem flat_disj_nested (cs ds es : List Clause) :
    (disj (cs ++ disj ds :: es)).flat = (disj (cs ++ ds ++ es)).flat := by
  have hnested : disjuncts (disj (disjunctsOf (ds.map flat))) = disjunctsOf (ds.map flat) :=
    disjunctsOf_disjunctsOf _
  simp only [flat, flatAll_eq, List.map_append, List.map_cons, disjunctsOf_append, disjunctsOf, hnested,
    List.append_assoc]

end Clause

/-! ## Layout -/

section Layout

variable (d : Dialect)

theorem layConjuncts_append (cs ds : List Clause) :
    layConjuncts d (cs ++ ds) = layConjuncts d cs ++ layConjuncts d ds := by
  induction cs with
  | nil => rfl
  | cons c rest ih => cases c <;> simp [layConjuncts, ih]

theorem layDisjuncts_append (cs ds : List Clause) :
    layDisjuncts d (cs ++ ds) = layDisjuncts d cs ++ layDisjuncts d ds := by
  induction cs with
  | nil => rfl
  | cons c rest ih => cases c <;> simp [layDisjuncts, ih]

/-- The layout takes nested conjunctions apart itself. -/
theorem layConjuncts_conjunctsOf (cs : List Clause) :
    layConjuncts d (Clause.conjunctsOf cs) = layConjuncts d cs :=
  Clause.of_conjunctsOf (layConjuncts_append d) (fun _ => List.append_nil _) cs

theorem layDisjuncts_disjunctsOf (cs : List Clause) :
    layDisjuncts d (Clause.disjunctsOf cs) = layDisjuncts d cs :=
  Clause.of_disjunctsOf (layDisjuncts_append d) (fun _ => List.append_nil _) cs

mutual

/-- A clause is laid out as its flat form. -/
theorem layClause_flat (c : Clause) : layClause d c.flat = layClause d c := by
  match c with
  | .conj cs => rw [Clause.flat, layClause, layConjuncts_conjunctsOf, layConjuncts_flatAll cs, layClause]
  | .disj cs => rw [Clause.flat, layClause, layDisjuncts_disjunctsOf, layDisjuncts_flatAll cs, layClause]
  | .negation c => rw [Clause.flat, layClause, layClause_flat c, layClause]
  | .compare _ _ _ | .constant _ _ _ | .isNull _ _ | .like _ _ _ | .between _ _ _ _ | .member _ _ _
  | .related _ | .missing | .decided _ => rfl

theorem layConjuncts_flatAll (cs : List Clause) :
    layConjuncts d (Clause.flatAll cs) = layConjuncts d cs := by
  match cs with
  | [] => rfl
  | .conj ds :: rest =>
      rw [Clause.flatAll, Clause.flat, layConjuncts, layConjuncts_conjunctsOf, layConjuncts_flatAll ds,
        layConjuncts_flatAll rest, layConjuncts]
  | .disj ds :: rest =>
      rw [Clause.flatAll, Clause.flat, layConjuncts, layDisjuncts_disjunctsOf, layDisjuncts_flatAll ds,
        layConjuncts_flatAll rest, layConjuncts]
  | .negation c :: rest | .compare r s v :: rest | .constant n s b :: rest | .isNull n s :: rest
  | .like n col p :: rest | .between n col l h :: rest | .member n col vs :: rest
  | .related s :: rest | .missing :: rest | .decided _ :: rest =>
      exact List.cons_eq_cons.mpr ⟨layClause_flat _, layConjuncts_flatAll rest⟩

theorem layDisjuncts_flatAll (cs : List Clause) :
    layDisjuncts d (Clause.flatAll cs) = layDisjuncts d cs := by
  match cs with
  | [] => rfl
  | .disj ds :: rest =>
      rw [Clause.flatAll, Clause.flat, layDisjuncts, layDisjuncts_disjunctsOf, layDisjuncts_flatAll ds,
        layDisjuncts_flatAll rest, layDisjuncts]
  | .conj ds :: rest | .negation c :: rest | .compare r s v :: rest | .constant n s b :: rest
  | .isNull n s :: rest | .like n col p :: rest | .between n col l h :: rest
  | .member n col vs :: rest | .related s :: rest | .missing :: rest | .decided _ :: rest =>
      exact List.cons_eq_cons.mpr ⟨layClause_flat _, layDisjuncts_flatAll rest⟩

end

/-- A flat form is written as the clauses themselves: brackets stand between unlike connectives only. -/
theorem layConditions_flat (cs : List Clause) : layConditions d (cs.map Clause.flat) = layConditions d cs := by
  rcases cs with _ | ⟨c, _ | ⟨c', rest⟩⟩
  · rfl
  · exact layClause_flat d c
  · have hall := layConjuncts_flatAll d (c :: c' :: rest)
    rw [Clause.flatAll_eq] at hall
    exact congrArg (Fragment.separated " AND ") hall

end Layout

/-! ## What clauses say -/

namespace Clause

theorem SameContent.trans {c d e : Clause} (h : SameContent c d) (h' : SameContent d e) : SameContent c e where
  sources := h.sources.trans h'.sources
  columns := h.columns.trans h'.columns
  aggregates := h.aggregates.trans h'.aggregates
  parameters := h.parameters.trans h'.parameters
  moments := h.moments.trans h'.moments

/-- The content of a list is that of its parts, in order. -/
theorem SameContent.cons {c d : Clause} {cs ds : List Clause} (h : SameContent c d)
    (h' : SameContent (.conj cs) (.conj ds)) : SameContent (.conj (c :: cs)) (.conj (d :: ds)) where
  sources := congrArg₂ (· ++ ·) h.sources h'.sources
  columns := congrArg₂ (· ++ ·) h.columns h'.columns
  aggregates := congrArg₂ (· || ·) h.aggregates h'.aggregates
  parameters := congrArg₂ (· ++ ·) h.parameters h'.parameters
  moments := congrArg₂ (· ++ ·) h.moments h'.moments

theorem anyAggregates_append (cs ds : List Clause) :
    anyAggregates (cs ++ ds) = (anyAggregates cs || anyAggregates ds) := by
  simp only [anyAggregates_eq, List.any_append]

section Listed

variable {α : Type} {f : Clause → List α} {fs : List Clause → List α} (hfs : ∀ cs, fs cs = cs.flatMap f)

include hfs

/-- What the parts of a conjunction give one after another, nested conjunctions included. -/
theorem listed_conjunctsOf (hconj : ∀ cs, f (.conj cs) = fs cs) (cs : List Clause) :
    fs (conjunctsOf cs) = fs cs := by
  have happend : ∀ cs ds, fs (cs ++ ds) = fs cs ++ fs ds := by
    intro cs ds
    simp only [hfs, List.flatMap_append]
  refine of_conjunctsOf happend (fun cs => ?_) cs
  rw [hfs, List.flatMap_singleton, hconj]

theorem listed_disjunctsOf (hdisj : ∀ cs, f (.disj cs) = fs cs) (cs : List Clause) :
    fs (disjunctsOf cs) = fs cs := by
  have happend : ∀ cs ds, fs (cs ++ ds) = fs cs ++ fs ds := by
    intro cs ds
    simp only [hfs, List.flatMap_append]
  refine of_disjunctsOf happend (fun cs => ?_) cs
  rw [hfs, List.flatMap_singleton, hdisj]

end Listed

/-- Taking conjunctions apart leaves the content alone. -/
theorem sameContent_conjunctsOf (cs : List Clause) : SameContent (.conj (conjunctsOf cs)) (.conj cs) where
  sources := listed_conjunctsOf sourcesOf_eq (fun _ => rfl) cs
  columns := listed_conjunctsOf columnsOf_eq (fun _ => rfl) cs
  aggregates := of_conjunctsOf anyAggregates_append (fun _ => Bool.or_false _) cs
  parameters := listed_conjunctsOf parametersOf_eq (fun _ => rfl) cs
  moments := listed_conjunctsOf momentsOf_eq (fun _ => rfl) cs

theorem sameContent_disjunctsOf (cs : List Clause) : SameContent (.disj (disjunctsOf cs)) (.disj cs) where
  sources := listed_disjunctsOf sourcesOf_eq (fun _ => rfl) cs
  columns := listed_disjunctsOf columnsOf_eq (fun _ => rfl) cs
  aggregates := of_disjunctsOf anyAggregates_append (fun _ => Bool.or_false _) cs
  parameters := listed_disjunctsOf parametersOf_eq (fun _ => rfl) cs
  moments := listed_disjunctsOf momentsOf_eq (fun _ => rfl) cs

mutual

/-- A clause has the content of its flat form. -/
theorem sameContent_flat (c : Clause) : SameContent c.flat c := by
  match c with
  | .conj cs => exact (sameContent_conjunctsOf _).trans (sameContent_flatAll cs)
  | .disj cs =>
      -- Content does not distinguish the connectives.
      obtain ⟨hsources, hcolumns, haggregates, hparameters, hmoments⟩ := sameContent_flatAll cs
      exact (sameContent_disjunctsOf _).trans ⟨hsources, hcolumns, haggregates, hparameters, hmoments⟩
  | .negation c =>
      obtain ⟨hsources, hcolumns, haggregates, hparameters, hmoments⟩ := sameContent_flat c
      exact ⟨hsources, hcolumns, haggregates, hparameters, hmoments⟩
  | .compare _ _ _ | .constant _ _ _ | .isNull _ _ | .like _ _ _ | .between _ _ _ _ | .member _ _ _
  | .related _ | .missing | .decided _ => exact ⟨rfl, rfl, rfl, rfl, rfl⟩

theorem sameContent_flatAll (cs : List Clause) : SameContent (.conj (flatAll cs)) (.conj cs) := by
  match cs with
  | [] => exact ⟨rfl, rfl, rfl, rfl, rfl⟩
  | c :: rest => exact (sameContent_flat c).cons (sameContent_flatAll rest)

end

section Truth

variable (db : Database) (group : List Row) (row : Row)

theorem truthAll_append (cs ds : List Clause) :
    truthAll db group row (cs ++ ds) = (truthAll db group row cs).and (truthAll db group row ds) := by
  induction cs with
  | nil => cases h : truthAll db group row ds <;> simp [truthAll, h, Truth.and]
  | cons c rest ih => rw [List.cons_append, truthAll, truthAll, ih, Truth.and_assoc]

theorem truthAny_append (cs ds : List Clause) :
    truthAny db group row (cs ++ ds) = (truthAny db group row cs).or (truthAny db group row ds) := by
  induction cs with
  | nil => cases h : truthAny db group row ds <;> simp [truthAny, h, Truth.or]
  | cons c rest ih => rw [List.cons_append, truthAny, truthAny, ih, Truth.or_assoc]

theorem truthAll_conjunctsOf (cs : List Clause) :
    truthAll db group row (conjunctsOf cs) = truthAll db group row cs := by
  refine of_conjunctsOf (truthAll_append db group row) (fun cs => ?_) cs
  rw [truthAll_eq, List.map_singleton, Truth.all_singleton]
  rfl

theorem truthAny_disjunctsOf (cs : List Clause) :
    truthAny db group row (disjunctsOf cs) = truthAny db group row cs := by
  refine of_disjunctsOf (truthAny_append db group row) (fun cs => ?_) cs
  rw [truthAny_eq, List.map_singleton, Truth.any_singleton]
  rfl

mutual

/-- A clause has the truth of its flat form on every row. -/
theorem truth_flat (c : Clause) : truth db group row c.flat = truth db group row c := by
  match c with
  | .conj cs => rw [flat, truth, truthAll_conjunctsOf, truthAll_flatAll cs, truth]
  | .disj cs => rw [flat, truth, truthAny_disjunctsOf, truthAny_flatAll cs, truth]
  | .negation c => rw [flat, truth, truth_flat c, truth]
  | .compare _ _ _ | .constant _ _ _ | .isNull _ _ | .like _ _ _ | .between _ _ _ _ | .member _ _ _
  | .related _ | .missing | .decided _ => rfl

theorem truthAll_flatAll (cs : List Clause) :
    truthAll db group row (flatAll cs) = truthAll db group row cs := by
  match cs with
  | [] => rfl
  | c :: rest => rw [flatAll, truthAll, truth_flat c, truthAll_flatAll rest, truthAll]

theorem truthAny_flatAll (cs : List Clause) :
    truthAny db group row (flatAll cs) = truthAny db group row cs := by
  match cs with
  | [] => rfl
  | c :: rest => rw [flatAll, truthAny, truth_flat c, truthAny_flatAll rest, truthAny]

end

end Truth

/-! ### Moments -/

section OnMoments

variable (g h : DateTime → DateTime)

mutual

/-- Changing moments leaves the connectives alone. -/
theorem conjuncts_onMoments (c : Clause) :
    conjuncts (c.onMoments g h) = (conjuncts c).map (onMoments g h) := by
  match c with
  | .conj cs => rw [onMoments, conjuncts, conjuncts, allOnMoments_eq, conjunctsOf_onMoments cs]
  | .disj _ | .negation _ | .compare _ _ _ | .constant _ _ _ | .isNull _ _ | .like _ _ _
  | .between _ _ _ _ | .member _ _ _ | .related _ | .missing | .decided _ => rfl

theorem conjunctsOf_onMoments (cs : List Clause) :
    conjunctsOf (cs.map (onMoments g h)) = (conjunctsOf cs).map (onMoments g h) := by
  match cs with
  | [] => rfl
  | c :: rest =>
      rw [List.map_cons, conjunctsOf, conjunctsOf, List.map_append, conjuncts_onMoments c,
        conjunctsOf_onMoments rest]

end

mutual

theorem disjuncts_onMoments (c : Clause) :
    disjuncts (c.onMoments g h) = (disjuncts c).map (onMoments g h) := by
  match c with
  | .disj cs => rw [onMoments, disjuncts, disjuncts, allOnMoments_eq, disjunctsOf_onMoments cs]
  | .conj _ | .negation _ | .compare _ _ _ | .constant _ _ _ | .isNull _ _ | .like _ _ _
  | .between _ _ _ _ | .member _ _ _ | .related _ | .missing | .decided _ => rfl

theorem disjunctsOf_onMoments (cs : List Clause) :
    disjunctsOf (cs.map (onMoments g h)) = (disjunctsOf cs).map (onMoments g h) := by
  match cs with
  | [] => rfl
  | c :: rest =>
      rw [List.map_cons, disjunctsOf, disjunctsOf, List.map_append, disjuncts_onMoments c,
        disjunctsOf_onMoments rest]

end

mutual

/-- The flat form does not look at moments. -/
theorem flat_onMoments (c : Clause) : (c.onMoments g h).flat = c.flat.onMoments g h := by
  match c with
  | .conj cs =>
      rw [onMoments, flat, flatAll_onMoments cs, conjunctsOf_onMoments, flat, onMoments, allOnMoments_eq]
  | .disj cs =>
      rw [onMoments, flat, flatAll_onMoments cs, disjunctsOf_onMoments, flat, onMoments, allOnMoments_eq]
  | .negation c => rw [onMoments, flat, flat_onMoments c, flat, onMoments]
  | .compare _ _ _ | .constant _ _ _ | .isNull _ _ | .like _ _ _ | .between _ _ _ _ | .member _ _ _
  | .related _ | .missing | .decided _ => rfl

theorem flatAll_onMoments (cs : List Clause) :
    flatAll (allOnMoments g h cs) = (flatAll cs).map (onMoments g h) := by
  match cs with
  | [] => rfl
  | c :: rest => rw [allOnMoments, flatAll, flat_onMoments c, flatAll_onMoments rest, flatAll, List.map_cons]

end

end OnMoments
end Clause

/-! ## Flat statements -/

namespace Statement

/-- A statement with its conditions in flat form. -/
def flat (s : Statement) : Statement :=
  { s with
    conditions := s.conditions.map Clause.flat
    groupConditions := s.groupConditions.map Clause.flat }

variable (s : Statement)

theorem trees_flat : s.flat.trees = s.trees := by
  have hsources := (Clause.sameContent_flatAll s.conditions).sources
  rw [Clause.flatAll_eq] at hsources
  unfold trees
  rw [show Clause.sourcesOf s.flat.conditions = Clause.sourcesOf s.conditions from hsources]
  rfl

/-- **Grouping does not show.** A statement is laid out as its flat form. -/
theorem layStatement_flat (d : Dialect) : layStatement d s.flat = layStatement d s := by
  unfold layStatement
  rw [trees_flat]
  simp only [flat, layConditions_flat]
  rfl

theorem sql_flat (d : Dialect) : s.flat.sql d = s.sql d := by
  rw [sql, sql, layStatement_flat]

theorem boundParameters_flat : s.flat.boundParameters = s.boundParameters := by
  rw [boundParameters, boundParameters, layStatement_flat]

/-- A statement in flat form is refused for what the statement is refused for. -/
theorem check_flat : s.flat.check = s.check := by
  have hconditions := Clause.sameContent_flatAll s.conditions
  have hgroup := Clause.sameContent_flatAll s.groupConditions
  rw [Clause.flatAll_eq] at hconditions hgroup
  have hnames : ∀ cs, s.flat.checkNames cs = s.checkNames cs := by
    intro cs
    simp only [checkNames, firstAmbiguous?, sources, trees_flat]
  have hcolumns : Clause.columnsOf s.flat.conditions = Clause.columnsOf s.conditions := hconditions.columns
  have haggregates : Clause.anyAggregates s.flat.conditions = Clause.anyAggregates s.conditions :=
    hconditions.aggregates
  have hgroupColumns : Clause.columnsOf s.flat.groupConditions = Clause.columnsOf s.groupConditions :=
    hgroup.columns
  have hempty : s.flat.groupConditions.isEmpty = s.groupConditions.isEmpty := List.isEmpty_map
  unfold check
  simp only [boundParameters_flat, hnames, hcolumns, haggregates, hgroupColumns, hempty]
  rfl

theorem matchingRows_flat (db : Database) : s.flat.matchingRows db = s.matchingRows db := by
  have htruth : ∀ row, Clause.truthAll db [row] row s.flat.conditions =
      Clause.truthAll db [row] row s.conditions := by
    intro row
    rw [← Clause.truthAll_flatAll db [row] row s.conditions, Clause.flatAll_eq]
    rfl
  simp only [matchingRows, trees_flat, htruth]

/-- It has the same results. -/
theorem results_flat (db : Database) : s.flat.results db = s.results db := by
  have hgroups : s.flat.groups db = s.groups db := by
    simp only [groups, matchingRows_flat]
    rfl
  have htruth : ∀ g : Group, Clause.truthAll db g (leadRow g) s.flat.groupConditions =
      Clause.truthAll db g (leadRow g) s.groupConditions := by
    intro g
    rw [← Clause.truthAll_flatAll db g (leadRow g) s.groupConditions, Clause.flatAll_eq]
    rfl
  unfold results
  simp only [hgroups, htruth]
  rfl

/-- A statement runs as its flat form. -/
theorem run_flat (db : Database) : s.flat.run db = s.run db := by
  rw [run, run, check_flat, results_flat]

theorem moments_flat : s.flat.moments = s.moments := by
  have hconditions := (Clause.sameContent_flatAll s.conditions).moments
  have hgroup := (Clause.sameContent_flatAll s.groupConditions).moments
  rw [Clause.flatAll_eq] at hconditions hgroup
  exact congrArg₂ (· ++ ·) hconditions hgroup

theorem flat_onMoments (g h : DateTime → DateTime) : (s.onMoments g h).flat = s.flat.onMoments g h := by
  simp only [flat, onMoments, List.map_map, Function.comp_def, Clause.flat_onMoments]

end Statement
end Criteria
