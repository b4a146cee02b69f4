import Criteria.Proofs.Statement.Check
import Criteria.Query.Modifier

/-!
# Statements with their moments changed

A statement compares with moments in two kinds of places: a parameter that is a moment, and a parameter that is a
list with moments in it. Changing the moments of a statement leaves its text alone and changes the values of its
parameters in place (`Statement.sql_onMoments`). Rounding a statement changes the moments of the first kind and
no others: it fails with the first of them that cannot be rounded (`Statement.mapValuesM_roundBound`).
-/

namespace Criteria

/-! ## Moments of values and clauses -/

/-- A value with its moment changed, if it is one. The items of a collection stay. -/
def Value.onMoment (g : DateTime → DateTime) : Value → Value
  | .dateTime t => .dateTime (g t)
  | v => v

/-- The moment that a value is, if it is one. -/
def Value.moment? : Value → Option DateTime
  | .dateTime t => some t
  | _ => none

@[simp] theorem Value.onMoment_id (v : Value) : v.onMoment id = v := by
  cases v <;> rfl

@[simp] theorem Value.map_onMoment_id (vs : List Value) : vs.map (onMoment id) = vs := by
  have hid : onMoment id = id := funext onMoment_id
  rw [hid, List.map_id]

namespace Clause

mutual

/-- A clause with its moments changed: those it compares with by `g`, those in its lists by `h`. -/
def onMoments (g h : DateTime → DateTime) : Clause → Clause
  | .compare r s v => .compare r s (v.onMoment g)
  | .between n c l u => .between n c (l.onMoment g) (u.onMoment g)
  | .member n c vs => .member n c (vs.map (Value.onMoment h))
  | .conj cs => .conj (allOnMoments g h cs)
  | .disj cs => .disj (allOnMoments g h cs)
  | .negation c => .negation (onMoments g h c)
  | c => c

def allOnMoments (g h : DateTime → DateTime) : List Clause → List Clause
  | [] => []
  | c :: rest => onMoments g h c :: allOnMoments g h rest

end

mutual

/-- The moments that a clause compares with, in order; those in its lists are not among them. -/
def moments : Clause → List DateTime
  | .compare _ _ v => v.moment?.toList
  | .between _ _ l u => l.moment?.toList ++ u.moment?.toList
  | .conj cs | .disj cs => momentsOf cs
  | .negation c => moments c
  | _ => []

def momentsOf : List Clause → List DateTime
  | [] => []
  | c :: rest => moments c ++ momentsOf rest

end

mutual

/-- The moments in the lists of a clause, in order. -/
def listedMoments : Clause → List DateTime
  | .member _ _ vs => vs.filterMap Value.moment?
  | .conj cs | .disj cs => listedMomentsOf cs
  | .negation c => listedMoments c
  | _ => []

def listedMomentsOf : List Clause → List DateTime
  | [] => []
  | c :: rest => listedMoments c ++ listedMomentsOf rest

end

section OnMoments

variable (g h : DateTime → DateTime)

theorem allOnMoments_eq (cs : List Clause) : allOnMoments g h cs = cs.map (onMoments g h) := by
  induction cs with
  | nil => rfl
  | cons c rest ih => rw [allOnMoments, ih, List.map_cons]

theorem onMoments_negate (c : Clause) : c.negate.onMoments g h = (c.onMoments g h).negate := by
  cases c <;> simp [negate, onMoments]

mutual

/-- Moments play no part in what a clause is about. -/
theorem sources_onMoments (c : Clause) : (c.onMoments g h).sources = c.sources := by
  match c with
  | .conj cs | .disj cs => simp only [onMoments, sources, sourcesOf_allOnMoments cs]
  | .negation c => simp only [onMoments, sources, sources_onMoments c]
  | .compare _ _ _ | .constant _ _ _ | .isNull _ _ | .like _ _ _ | .between _ _ _ _ | .member _ _ _
  | .related _ | .missing | .decided _ => rfl

theorem sourcesOf_allOnMoments (cs : List Clause) :
    sourcesOf (allOnMoments g h cs) = sourcesOf cs := by
  match cs with
  | [] => rfl
  | c :: rest =>
      simp only [allOnMoments, sourcesOf, sources_onMoments c, sourcesOf_allOnMoments rest]

end

/-- The moments in the lists of values decide whether changing them makes a difference. -/
theorem map_onMoment_eq_iff {g h : DateTime → DateTime} {vs : List Value} :
    vs.map (Value.onMoment g) = vs.map (Value.onMoment h) ↔
      ∀ t ∈ vs.filterMap Value.moment?, g t = h t := by
  induction vs with
  | nil => simp
  | cons v rest ih =>
      cases v <;> simp [Value.onMoment, Value.moment?, ih]

variable {g h} {h' : DateTime → DateTime}

mutual

/-- Two ways to change the moments in lists are one for a clause if they agree on those in its lists. -/
theorem onMoments_eq_iff (c : Clause) :
    c.onMoments g h = c.onMoments g h' ↔ ∀ t ∈ c.listedMoments, h t = h' t := by
  match c with
  | .member n col vs =>
      simp only [onMoments, listedMoments, member.injEq, true_and, map_onMoment_eq_iff]
  | .conj cs | .disj cs => simp [onMoments, listedMoments, allOnMoments_eq_iff cs]
  | .negation c => simp [onMoments, listedMoments, onMoments_eq_iff c]
  | .compare _ _ _ | .constant _ _ _ | .isNull _ _ | .like _ _ _ | .between _ _ _ _ | .related _
  | .missing | .decided _ => simp [onMoments, listedMoments]

/-- Two changes of the moments in lists come to the same exactly if they agree on each of them. -/
theorem allOnMoments_eq_iff (cs : List Clause) :
    allOnMoments g h cs = allOnMoments g h' cs ↔ ∀ t ∈ listedMomentsOf cs, h t = h' t := by
  match cs with
  | [] => simp [allOnMoments, listedMomentsOf]
  | c :: rest =>
      simp [allOnMoments, listedMomentsOf, onMoments_eq_iff c, allOnMoments_eq_iff rest, or_imp,
        forall_and]

end

end OnMoments
end Clause

/-! ## Moments of statements -/

namespace Statement

/-- A statement with its moments changed: those it compares with by `g`, those in its lists by `h`. -/
def onMoments (g h : DateTime → DateTime) (s : Statement) : Statement :=
  { s with
    conditions := s.conditions.map (Clause.onMoments g h)
    groupConditions := s.groupConditions.map (Clause.onMoments g h) }

/-- The moments that a statement compares with: those of the conditions on rows come first. -/
def moments (s : Statement) : List DateTime :=
  Clause.momentsOf s.conditions ++ Clause.momentsOf s.groupConditions

/-- The moments in the lists of a statement. -/
def listedMoments (s : Statement) : List DateTime :=
  Clause.listedMomentsOf s.conditions ++ Clause.listedMomentsOf s.groupConditions

/-- Two ways to change the moments in lists are one for a statement if they agree on those in its lists. -/
theorem onMoments_eq_iff {g h h' : DateTime → DateTime} (s : Statement) :
    s.onMoments g h = s.onMoments g h' ↔ ∀ t ∈ s.listedMoments, h t = h' t := by
  simp only [onMoments, mk.injEq, true_and, and_true, listedMoments, List.mem_append, or_imp,
    forall_and, ← Clause.allOnMoments_eq, Clause.allOnMoments_eq_iff]

theorem trees_onMoments (g h : DateTime → DateTime) (s : Statement) :
    (s.onMoments g h).trees = s.trees := by
  unfold trees
  simp only [onMoments, ← Clause.allOnMoments_eq, Clause.sourcesOf_allOnMoments]

end Statement

/-! ## Text and parameters -/

/-- A fragment with the moments of its parameters changed. -/
def Fragment.onMoments (g h : DateTime → DateTime) : Fragment → Fragment
  | .parameter base p => .parameter base ⟨p.preparation, p.value.onMoment g⟩
  | .parameters base preparation values =>
    .parameters base preparation (values.map (Value.onMoment h))
  | f => f

theorem Fragment.keepsText_onMoments (g h : DateTime → DateTime) : KeepsText (onMoments g h) :=
  fun _ => rfl

section Layout

variable (d : Dialect) (g h : DateTime → DateTime)

/-- A moment is prepared as any other is. -/
theorem forValue_onMoment (type : ColumnType) (v : Value) :
    Preparation.forValue type (v.onMoment g) = .forValue type v := by
  cases v <;> rfl

theorem layValue_onMoment (base : String) (type : ColumnType) (v : Value) :
    layValue base type (v.onMoment g) = (layValue base type v).onMoments g h := by
  simp only [layValue, Fragment.onMoments, forValue_onMoment]

theorem forValues_onMoment (type : ColumnType) (vs : List Value) :
    Preparation.forValues type (vs.map (Value.onMoment h)) = .forValues type vs := by
  cases vs with
  | nil => rfl
  | cons v rest => exact forValue_onMoment h type v

mutual

/-- Moments stand in the parameters of a clause only. -/
theorem layClause_onMoments (c : Clause) :
    layClause d (c.onMoments g h) = (layClause d c).map (Fragment.onMoments g h) := by
  match c with
  | .conj cs =>
      simp only [Clause.onMoments, layClause, Fragment.map_separated (Fragment.keepsText_onMoments g h),
        layConjuncts_onMoments cs]
  | .disj cs =>
      simp only [Clause.onMoments, layClause, Fragment.map_separated (Fragment.keepsText_onMoments g h),
        layDisjuncts_onMoments cs]
  | .negation c =>
      simp only [Clause.onMoments, layClause, layClause_onMoments c, List.map_cons, List.map_append]
      rfl
  | .compare r s v => simp only [Clause.onMoments, layClause, layValue_onMoment g h]; rfl
  | .between n col l u => simp only [Clause.onMoments, layClause, layValue_onMoment g h]; rfl
  | .member n col vs => simp only [Clause.onMoments, layClause, forValues_onMoment]; rfl
  | .constant _ _ _ | .isNull _ _ | .like _ _ _ | .related _ | .missing | .decided _ => rfl

theorem layConjuncts_onMoments (cs : List Clause) :
    layConjuncts d (Clause.allOnMoments g h cs) =
      (layConjuncts d cs).map fun fs => fs.map (Fragment.onMoments g h) := by
  match cs with
  | [] => rfl
  | .conj ds :: rest =>
      simp only [Clause.allOnMoments, Clause.onMoments, layConjuncts, List.map_append,
        layConjuncts_onMoments ds, layConjuncts_onMoments rest]
  | .disj ds :: rest =>
      simp only [Clause.allOnMoments, Clause.onMoments, layConjuncts, List.map_cons, List.map_append,
        Fragment.map_separated (Fragment.keepsText_onMoments g h), layDisjuncts_onMoments ds,
        layConjuncts_onMoments rest]
      rfl
  | .negation c :: rest | .compare r s v :: rest | .constant n s b :: rest | .isNull n s :: rest
  | .like n col p :: rest | .between n col l u :: rest | .member n col vs :: rest
  | .related s :: rest | .missing :: rest | .decided _ :: rest =>
      exact List.cons_eq_cons.mpr ⟨layClause_onMoments _, layConjuncts_onMoments rest⟩

theorem layDisjuncts_onMoments (cs : List Clause) :
    layDisjuncts d (Clause.allOnMoments g h cs) =
      (layDisjuncts d cs).map fun fs => fs.map (Fragment.onMoments g h) := by
  match cs with
  | [] => rfl
  | .disj ds :: rest =>
      simp only [Clause.allOnMoments, Clause.onMoments, layDisjuncts, List.map_append,
        layDisjuncts_onMoments ds, layDisjuncts_onMoments rest]
  | .conj ds :: rest | .negation c :: rest | .compare r s v :: rest | .constant n s b :: rest
  | .isNull n s :: rest | .like n col p :: rest | .between n col l u :: rest
  | .member n col vs :: rest | .related s :: rest | .missing :: rest | .decided _ :: rest =>
      exact List.cons_eq_cons.mpr ⟨layClause_onMoments _, layDisjuncts_onMoments rest⟩

end

theorem layConditions_onMoments (cs : List Clause) :
    layConditions d (cs.map (Clause.onMoments g h)) =
      (layConditions d cs).map (Fragment.onMoments g h) := by
  rcases cs with _ | ⟨c, _ | ⟨c', rest⟩⟩
  · rfl
  · exact layClause_onMoments d g h c
  · have hall := layConjuncts_onMoments d g h (c :: c' :: rest)
    simp only [Clause.allOnMoments_eq, List.map_cons] at hall
    simp only [List.map_cons, layConditions, Fragment.map_separated (Fragment.keepsText_onMoments g h),
      hall]

/-- Fragments without parameters have no moments. -/
theorem map_onMoments_of_literal {fs : List Fragment} (hfs : Fragment.Literal fs) :
    fs.map (Fragment.onMoments g h) = fs := by
  induction fs with
  | nil => rfl
  | cons f rest ih =>
      obtain ⟨hf, hrest⟩ := List.append_eq_nil_iff.mp hfs
      rw [List.map_cons, ih hrest]
      cases f with
      | text s | label base => rfl
      | parameter base p => cases hf
      | parameters base preparation values =>
          obtain rfl := List.map_eq_nil_iff.mp hf
          rfl

theorem map_onMoments_layPaging (limit offset : Option Int) :
    (layPaging d limit offset).map (Fragment.onMoments g h) = layPaging d limit offset := by
  cases d <;> cases limit <;> cases offset <;> rfl

/-- A statement is laid out as before, with the moments in its parameters changed. -/
theorem layStatement_onMoments (s : Statement) :
    layStatement d (s.onMoments g h) = (layStatement d s).map (Fragment.onMoments g h) := by
  have hselect : Fragment.Literal (Fragment.separated ", " (laySelectList d [] (selectList s.items))) :=
    Fragment.literal_separated (literal_laySelectList _ _ _)
  have htexts : ∀ keyword parts, (layPart keyword (layTexts parts)).map (Fragment.onMoments g h) =
      layPart keyword (layTexts parts) := fun keyword parts =>
    map_onMoments_of_literal g h (literal_layTexts keyword parts)
  simp only [layStatement, Statement.trees_onMoments, List.map_cons, List.map_append,
    map_onMoments_of_literal g h hselect, htexts, map_onMoments_layPaging]
  have hpart := Fragment.map_layPart (Fragment.keepsText_onMoments g h)
  rw [hpart, hpart, ← layConditions_onMoments, ← layConditions_onMoments]
  rfl

end Layout

/-- Numbering reads no moments, and the value behind a name is that of its parameter. -/
theorem Sql.ofFragments_onMoments (d : Dialect) (g h : DateTime → DateTime) (u : Uses)
    (fs : List Fragment) :
    (Sql.ofFragments d u (fs.map (Fragment.onMoments g h))).text = (Sql.ofFragments d u fs).text ∧
      (Sql.ofFragments d u (fs.map (Fragment.onMoments g id))).parameters =
        (Sql.ofFragments d u fs).parameters.map fun p => (p.1, p.2.onMoment g) := by
  induction fs generalizing u with
  | nil => exact ⟨rfl, rfl⟩
  | cons f rest ih =>
      cases f with
      | text s =>
          obtain ⟨htext, hparameters⟩ := ih u
          exact ⟨congrArg (s ++ ·) htext, hparameters⟩
      | label base =>
          obtain ⟨htext, hparameters⟩ := ih (u.next base).2
          exact ⟨congrArg ((u.next base).1 ++ ·) htext, hparameters⟩
      | parameter base p =>
          obtain ⟨htext, hparameters⟩ := ih (u.next base).2
          exact ⟨congrArg (_ ++ ·) htext, congrArg (_ :: ·) hparameters⟩
      | parameters base preparation values =>
          obtain ⟨htext, hparameters⟩ := ih (u.next base).2
          refine ⟨congrArg (_ ++ ·) htext, List.cons_eq_cons.mpr ⟨?_, hparameters⟩⟩
          -- A list is no moment, and its items stay.
          exact congrArg (fun vs => ((u.next base).1, Value.list vs)) (Value.map_onMoment_id values)

namespace Statement

/-- **Moments change in place.** Changing the moments that a statement compares with leaves its text alone, and
of its parameters it changes those that are moments. -/
theorem sql_onMoments (d : Dialect) (g : DateTime → DateTime) (s : Statement) :
    ((s.onMoments g id).sql d).text = (s.sql d).text ∧
      ((s.onMoments g id).sql d).parameters =
        (s.sql d).parameters.map fun p => (p.1, p.2.onMoment g) := by
  simp only [sql, layStatement_onMoments]
  exact Sql.ofFragments_onMoments d g id [] (layStatement d s)

end Statement

/-! ## What the store accepts -/

/-- A moment is bound where any other is. -/
theorem Parameter.binds_onMoment (g : DateTime → DateTime) (p : Preparation) (v : Value) :
    Parameter.Binds ⟨p, v.onMoment g⟩ ↔ Parameter.Binds ⟨p, v⟩ := by
  cases v with
  | dateTime t => cases p <;> simp [Binds, Value.onMoment, prepare, prepareReal, prepareBoolean,
      prepareDate, prepareTime, prepareDateTime, prepareBytes, bindCell]
  | _ => rfl

/-- Whether values can be bound does not depend on the moments among them. -/
theorem Statement.bindsAll_onMoments (g h : DateTime → DateTime) (s : Statement) :
    (s.onMoments g h).BindsAll ↔ s.BindsAll := by
  have hfragment : ∀ f : Fragment, (∀ p ∈ (f.onMoments g h).bound, p.Binds) ↔ ∀ p ∈ f.bound, p.Binds := by
    intro f
    cases f <;> simp [Fragment.onMoments, Fragment.bound, Parameter.binds_onMoment]
  have hbound : ∀ t : Statement, t.boundParameters = (layStatement .sqlite t).flatMap Fragment.bound :=
    fun _ => rfl
  simp only [BindsAll, exists_bindAll_iff, hbound, layStatement_onMoments, List.forall_mem_flatMap,
    List.forall_mem_map, hfragment]

/-! ## Rounding -/

/-- A moment rounded by a step of seconds, or left alone where it cannot be. -/
def rounded (seconds : Value) (t : DateTime) : DateTime :=
  match roundMoment seconds t with
  | .ok r => r
  | .error _ => t

theorem roundMoment_eq_rounded {seconds : Value} {t r : DateTime} (h : roundMoment seconds t = .ok r) :
    rounded seconds t = r := by
  simp only [rounded, h]

/-- Going through two lists one after the other is going through one list. -/
theorem map_mapM_append {α β γ δ ρ ε : Type} (f : α → Except ε β) (xs ys : List α) (a : γ) (b : δ)
    (k : γ → δ → ρ) :
    ((xs ++ ys).mapM f).map (fun _ => k a b) = (do
      let a ← (xs.mapM f).map fun _ => a
      let b ← (ys.mapM f).map fun _ => b
      return k a b) := by
  rw [List.mapM_append]
  cases xs.mapM f with
  | error e => rfl
  | ok as => cases ys.mapM f <;> rfl

section Rounding

variable (seconds : Value)

/-- A value is rounded if it is a moment. -/
theorem roundBound_eq (v : Value) :
    roundBound seconds v =
      (v.moment?.toList.mapM (roundMoment seconds)).map fun _ => v.onMoment (rounded seconds) := by
  cases v with
  | dateTime t =>
      simp only [roundBound, roundValue, Value.moment?, Value.onMoment, Option.toList_some, rounded,
        List.mapM_cons, List.mapM_nil]
      cases roundMoment seconds t <;> rfl
  | _ => rfl

namespace Clause

mutual

/-- Rounding a clause rounds the moments that it compares with, one after another. -/
theorem mapValuesM_roundBound (c : Clause) :
    c.mapValuesM (roundBound seconds) =
      (c.moments.mapM (roundMoment seconds)).map fun _ => c.onMoments (rounded seconds) id := by
  match c with
  | .compare r s v =>
      simp only [mapValuesM, moments, onMoments, roundBound_eq]
      cases v.moment?.toList.mapM (roundMoment seconds) <;> rfl
  | .between n col l u =>
      simp only [mapValuesM, moments, onMoments, roundBound_eq]
      exact (map_mapM_append _ _ _ _ _ (Clause.between n col)).symm
  | .conj cs | .disj cs =>
      simp only [mapValuesM, moments, onMoments, mapAllValuesM_roundBound cs]
      cases (momentsOf cs).mapM (roundMoment seconds) <;> rfl
  | .negation c =>
      simp only [mapValuesM, moments, onMoments, mapValuesM_roundBound c]
      cases c.moments.mapM (roundMoment seconds) <;> rfl
  | .member n col vs =>
      simp only [mapValuesM, moments, onMoments, Value.map_onMoment_id]
      rfl
  | .constant _ _ _ | .isNull _ _ | .like _ _ _ | .related _ | .missing | .decided _ => rfl

theorem mapAllValuesM_roundBound (cs : List Clause) :
    mapAllValuesM (roundBound seconds) cs =
      ((momentsOf cs).mapM (roundMoment seconds)).map fun _ =>
        allOnMoments (rounded seconds) id cs := by
  match cs with
  | [] => rfl
  | c :: rest =>
      simp only [mapAllValuesM, mapValuesM_roundBound c, mapAllValuesM_roundBound rest]
      exact (map_mapM_append _ _ _ _ _ List.cons).symm

end

end Clause

/-- **Rounding a statement** rounds the moments that it compares with, up to the first that cannot be
rounded, and leaves those in its lists as they are. -/
theorem Statement.mapValuesM_roundBound (s : Statement) :
    s.mapValuesM (roundBound seconds) =
      (s.moments.mapM (roundMoment seconds)).map fun _ => s.onMoments (rounded seconds) id := by
  simp only [mapValuesM, moments, onMoments, ← Clause.allOnMoments_eq, Clause.mapAllValuesM_roundBound]
  exact (map_mapM_append _ _ _ _ _ fun cs ds =>
    { s with conditions := cs, groupConditions := ds }).symm

end Rounding
end Criteria
