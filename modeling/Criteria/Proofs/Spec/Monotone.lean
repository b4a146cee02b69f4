import Criteria.Proofs.Calendar.StoredText
import Criteria.Proofs.Spec.Meaning
import Criteria.Proofs.Spec.Moments

/-!
# Trees without negation

A tree that negates nothing accepts a row if its leaves say enough, and no leaf can spoil it by saying more
(`Spec.accepts_of_implies`). What a comparison with a moment says depends on the order in which the store puts
texts and moments: an earlier lower bound, and a later upper bound, is true of every cell of which the other is
(`comparisonsImply_earlier`, `comparisonsImply_later`).
-/

namespace Criteria

/-! ## Bounds and cells -/

namespace Relation

/-- Whether a relation bounds what is compared from below. -/
def isLower : Relation → Bool
  | .gt | .ge => true
  | _ => false

/-- Whether a relation bounds what is compared from above. -/
def isUpper : Relation → Bool
  | .lt | .le => true
  | _ => false

variable {α : Type} [LinearOrder α] {x s t : α} {r : Relation}

/-- What is above a bound is above an earlier one. -/
theorem test_compare_earlier (hr : r.isLower = true) (hst : s ≤ t)
    (h : r.test (compare x t) = true) : r.test (compare x s) = true := by
  cases r with
  | gt =>
      simp only [test, beq_iff_eq, compare_gt_iff_gt] at h ⊢
      exact lt_of_le_of_lt hst h
  | ge =>
      simp only [test, bne_iff_ne, ne_eq, compare_lt_iff_lt, not_lt] at h ⊢
      exact le_trans hst h
  | eq | ne | lt | le => cases hr

/-- What is below a bound is below a later one. -/
theorem test_compare_later (hr : r.isUpper = true) (hst : s ≤ t)
    (h : r.test (compare x s) = true) : r.test (compare x t) = true := by
  cases r with
  | lt =>
      simp only [test, beq_iff_eq, compare_lt_iff_lt] at h ⊢
      exact lt_of_lt_of_le h hst
  | le =>
      simp only [test, bne_iff_ne, ne_eq, compare_gt_iff_gt, not_lt] at h ⊢
      exact le_trans h hst
  | eq | ne | gt | ge => cases hr

end Relation

namespace Cell

/-- The order of a cell beside a moment is that of two moments, that of two texts, or the same beside every
moment. -/
theorem order_stamp_cases (c : Cell) :
    (∃ u : DateTime, ∀ t, c.order (.stamp t) = compare u.micros t.micros) ∨
      (∃ s : String, ∀ t, c.order (.stamp t) = compareText s t.storedText) ∨
      ∃ o, ∀ t, c.order (.stamp t) = o := by
  cases c with
  | stamp u => exact .inl ⟨u, fun t => rfl⟩
  | text s => exact .inr (.inl ⟨s, fun t => rfl⟩)
  | null | int n | real x | blob content => exact .inr (.inr ⟨_, fun t => rfl⟩)

/-- Earlier moments have no later texts. -/
theorem storedText_le {s t : DateTime} (h : s.micros ≤ t.micros) : s.storedText ≤ t.storedText := by
  rw [← not_lt, ← compare_gt_iff_gt]
  intro hgt
  have hcompare : compare s.micros t.micros = .gt := (s.compare_storedText t).symm.trans hgt
  exact absurd (compare_gt_iff_gt.mp hcompare) (not_lt.mpr h)

variable {r : Relation} {s t : DateTime}

/-- What is above a moment is above an earlier one. -/
theorem test_order_earlier (hr : r.isLower = true) (hst : s.micros ≤ t.micros) (c : Cell)
    (h : r.test (c.order (.stamp t)) = true) : r.test (c.order (.stamp s)) = true := by
  rcases c.order_stamp_cases with ⟨u, hc⟩ | ⟨u, hc⟩ | ⟨o, hc⟩
  · rw [hc] at h ⊢
    exact Relation.test_compare_earlier hr hst h
  · rw [hc] at h ⊢
    exact Relation.test_compare_earlier hr (storedText_le hst) h
  · rw [hc] at h ⊢
    exact h

/-- What is below a moment is below a later one. -/
theorem test_order_later (hr : r.isUpper = true) (hst : s.micros ≤ t.micros) (c : Cell)
    (h : r.test (c.order (.stamp s)) = true) : r.test (c.order (.stamp t)) = true := by
  rcases c.order_stamp_cases with ⟨u, hc⟩ | ⟨u, hc⟩ | ⟨o, hc⟩
  · rw [hc] at h ⊢
    exact Relation.test_compare_later hr hst h
  · rw [hc] at h ⊢
    exact Relation.test_compare_later hr (storedText_le hst) h
  · rw [hc] at h ⊢
    exact h

end Cell

/-- What a comparison with a moment says, whatever the type of the column. -/
theorem holds_relate_moment (type : ColumnType) (test : Ordering → Bool) (c : Cell) (t : DateTime) :
    (Cell.relate (some type) test c ((Value.dateTime t).beside type)).holds = true ↔
      c ≠ .null ∧ test (c.order (.stamp t.withoutOffset)) = true := by
  have hbeside : (Value.dateTime t).beside type = .stamp t.withoutOffset := rfl
  have hadapt : (Cell.stamp t.withoutOffset).adapt (some type) = .stamp t.withoutOffset := by
    cases type <;> rfl
  rw [hbeside]
  cases c with
  | null => simp [Cell.relate, Truth.holds]
  | _ =>
      simp only [Cell.relate, hadapt, ne_eq, reduceCtorEq, not_false_eq_true, true_and]
      cases test _ <;> simp [Truth.ofBool, Truth.holds]

/-! ## Moments of a tree -/

/-- Whether all moments that a predicate compares with, each with its relation, are as said. -/
def Predicate.EachCompared (P : Relation → DateTime → Prop) : Predicate → Prop
  | .compare _ r v => ∀ t ∈ v.moment?, P r t
  | .between l u => (∀ t ∈ l.moment?, P .ge t) ∧ ∀ t ∈ u.moment?, P .le t
  | _ => True

namespace Spec

mutual

/-- Whether all moments that a tree compares with, each with its relation, are as said. -/
def EachCompared (P : Relation → DateTime → Prop) : Spec → Prop
  | .filter _ _ p => p.EachCompared P
  | .countAbove _ _ _ v => ∀ t ∈ v.moment?, P .gt t
  | .conj cs | .disj cs => AllEachCompared P cs
  | .neg c | .having c | .countOf (some c) | .named _ _ c => EachCompared P c
  | _ => True

def AllEachCompared (P : Relation → DateTime → Prop) : List Spec → Prop
  | [] => True
  | s :: rest => EachCompared P s ∧ AllEachCompared P rest

end

mutual

/-- Whether a tree retrieves entities and negates nothing. -/
def isPositive : Spec → Bool
  | .filter _ _ _ | .join _ _ _ _ | .orderBy _ _ _ | .idle | .base _ | .namedForeign _ _ _ => true
  | .conj cs | .disj cs => arePositive cs
  | .named _ _ c => isPositive c
  | _ => false

def arePositive : List Spec → Bool
  | [] => true
  | s :: rest => isPositive s && arePositive rest

end

mutual

theorem isRetrieval_of_isPositive {s : Spec} (h : s.isPositive = true) : s.isRetrieval = true := by
  match s with
  | .conj cs | .disj cs => exact @areRetrievals_of_arePositive cs h
  | .named t a c => exact @isRetrieval_of_isPositive c h
  | .filter _ _ _ | .join _ _ _ _ | .orderBy _ _ _ | .idle | .base _ | .namedForeign _ _ _ => rfl
  | .countAbove _ _ _ _ | .neg _ | .limit _ | .offset _ | .groupBy _ _ | .distinct | .having _
  | .countOf _ => cases h

theorem areRetrievals_of_arePositive {ss : List Spec} (h : arePositive ss = true) :
    areRetrievals ss = true := by
  match ss with
  | [] => rfl
  | s :: rest =>
      obtain ⟨hs, hrest⟩ := Bool.and_eq_true_iff.mp h
      rw [areRetrievals, isRetrieval_of_isPositive hs, areRetrievals_of_arePositive hrest]
      rfl

end

mutual

/-- Moments play no part in what kind of tree one is. -/
theorem isRetrieval_onMoments (g h : DateTime → DateTime) (s : Spec) :
    (s.onMoments g h).isRetrieval = s.isRetrieval := by
  match s with
  | .conj cs | .disj cs => exact areRetrievals_allOnMoments g h cs
  | .neg c | .named _ _ c => exact isRetrieval_onMoments g h c
  | .countOf (some c) => rfl
  | .filter _ _ _ | .countAbove _ _ _ _ | .join _ _ _ _ | .limit _ | .offset _ | .orderBy _ _ _
  | .groupBy _ _ | .distinct | .having _ | .countOf none | .idle | .base _ | .namedForeign _ _ _ => rfl

theorem areRetrievals_allOnMoments (g h : DateTime → DateTime) (ss : List Spec) :
    areRetrievals (allOnMoments g h ss) = areRetrievals ss := by
  match ss with
  | [] => rfl
  | s :: rest =>
      rw [allOnMoments, areRetrievals, areRetrievals, isRetrieval_onMoments g h s,
        areRetrievals_allOnMoments g h rest]

end

end Spec

/-! ## More truth in the leaves -/

/-- Whether one truth is yes where another is. -/
abbrev Truth.Implies (t u : Truth) : Prop := t.holds = true → u.holds = true

namespace Truth

theorem holds_and {t u : Truth} : (t.and u).holds = true ↔ t.holds = true ∧ u.holds = true := by
  cases t <;> cases u <;> decide

theorem holds_or {t u : Truth} : (t.or u).holds = true ↔ t.holds = true ∨ u.holds = true := by
  cases t <;> cases u <;> decide

/-- A conjunction is monotone in three-valued logic. -/
theorem all_implies {ts us : List Truth} (h : List.Forall₂ Implies ts us) : Implies (all ts) (all us) := by
  induction h with
  | nil => exact id
  | cons hfirst _ ih =>
      intro hall
      obtain ⟨ht, hrest⟩ := holds_and.mp hall
      exact holds_and.mpr ⟨hfirst ht, ih hrest⟩

/-- So is a disjunction. -/
theorem any_implies {ts us : List Truth} (h : List.Forall₂ Implies ts us) : Implies (any ts) (any us) := by
  induction h with
  | nil => exact id
  | cons hfirst _ ih =>
      intro hany
      rcases holds_or.mp hany with ht | hrest
      · exact holds_or.mpr (.inl (hfirst ht))
      · exact holds_or.mpr (.inr (ih hrest))

end Truth

/-- Children that say more say more together. -/
theorem together_implies {f : List Truth → Truth} {ts us : List Truth}
    (hf : Truth.Implies (f ts) (f us)) (h : List.Forall₂ Truth.Implies ts us) :
    Option.Rel Truth.Implies (Spec.together f ts) (Spec.together f us) := by
  cases h with
  | nil => exact .none
  | cons hfirst hrest => exact .some hf

/-- Whether comparisons say more of every cell when the moments in them are changed by `g'` than when they are
changed by `g`. -/
def ComparisonsImply (P : Relation → DateTime → Prop) (g g' : DateTime → DateTime) : Prop :=
  ∀ r t type c, P r t →
    Truth.Implies (Cell.relate (some type) r.test c ((Value.dateTime (g t)).beside type))
      (Cell.relate (some type) r.test c ((Value.dateTime (g' t)).beside type))

/-- Earlier lower bounds say more. -/
theorem comparisonsImply_earlier {g k : DateTime → DateTime} (h : ∀ t, (k t).micros ≤ (g t).micros) :
    ComparisonsImply (fun r _ => r.isLower = true) g k := by
  intro r t type c hr hholds
  rw [holds_relate_moment] at hholds ⊢
  have hmicros : (k t).withoutOffset.micros ≤ (g t).withoutOffset.micros := h t
  exact ⟨hholds.1, Cell.test_order_earlier hr hmicros c hholds.2⟩

/-- Later upper bounds say more. -/
theorem comparisonsImply_later {g k : DateTime → DateTime} (h : ∀ t, (g t).micros ≤ (k t).micros) :
    ComparisonsImply (fun r _ => r.isUpper = true) g k := by
  intro r t type c hr hholds
  rw [holds_relate_moment] at hholds ⊢
  have hmicros : (g t).withoutOffset.micros ≤ (k t).withoutOffset.micros := h t
  exact ⟨hholds.1, Cell.test_order_later hr hmicros c hholds.2⟩

section Implies

variable {P : Relation → DateTime → Prop} {g g' : DateTime → DateTime}
  {present : Source → Relationship → Truth} {names : List (String × Source)} {row : Row}

theorem relate_implies (hcompare : ComparisonsImply P g g') {r : Relation} {v : Value}
    (hv : ∀ t ∈ v.moment?, P r t) (type : ColumnType) (c : Cell) :
    Truth.Implies (Cell.relate (some type) r.test c ((v.onMoment g).beside type))
      (Cell.relate (some type) r.test c ((v.onMoment g').beside type)) := by
  cases v with
  | dateTime t => exact hcompare r t type c (hv t rfl)
  | _ => exact id

theorem ofCell_implies (hcompare : ComparisonsImply P g g') {p : Predicate} (hp : p.EachCompared P)
    (type : ColumnType) (c : Cell) :
    Truth.Implies ((p.onMoments g id).ofCell type c) ((p.onMoments g' id).ofCell type c) := by
  cases p with
  | compare named r v =>
      cases v with
      | dateTime t =>
          have hrelate := hcompare r t type c (hp t rfl)
          cases r <;> exact hrelate
      | _ => exact id
  | between l u =>
      intro h
      obtain ⟨hl, hu⟩ := Truth.holds_and.mp h
      exact Truth.holds_and.mpr ⟨relate_implies hcompare hp.1 type c hl,
        relate_implies hcompare hp.2 type c hu⟩
  | member n vs =>
      simp only [Predicate.onMoments, Value.map_onMoment_id]
      exact id
  | isNull n | like p v | unsaid => exact id

/-- A predicate whose comparisons say more says more of every row. -/
theorem truth_implies (hcompare : ComparisonsImply P g g') {p : Predicate} (hp : p.EachCompared P)
    (under field : String) :
    Truth.Implies ((p.onMoments g id).truth present names row under field)
      ((p.onMoments g' id).truth present names row under field) := by
  unfold Predicate.truth
  cases names.lookup under with
  | none => exact id
  | some s =>
      simp only
      rcases s.entity.field? field with _ | c | r | a
      · exact id
      · exact ofCell_implies hcompare hp c.type _
      · -- Of a relationship only its presence is asked.
        cases p with
        | compare named rel v => cases rel <;> cases v <;> exact id
        | member n vs | isNull n | like p v | between l u | unsaid => exact id
      · -- An attribute of a class is no moment, and compares with any moment alike.
        cases p with
        | compare named rel v => cases a <;> cases v <;> cases rel <;> exact id
        | member n vs | isNull n | like p v | between l u | unsaid => exact id

mutual

theorem truth?_implies (hcompare : ComparisonsImply P g g') {s : Spec} (hs : s.isPositive = true)
    (heach : s.EachCompared P) (under : String) :
    Option.Rel Truth.Implies ((s.onMoments g id).truth? present names row under)
      ((s.onMoments g' id).truth? present names row under) := by
  match s with
  | .filter a f p => exact .some (truth_implies hcompare heach _ f)
  | .conj cs =>
      have hall := truths_implies hcompare (show Spec.arePositive cs = true from hs) heach under
      exact together_implies (Truth.all_implies hall) hall
  | .disj cs =>
      have hall := truths_implies hcompare (show Spec.arePositive cs = true from hs) heach under
      exact together_implies (Truth.any_implies hall) hall
  | .named t a c => exact truth?_implies hcompare (s := c) hs heach _
  | .join _ _ _ _ | .orderBy _ _ _ | .idle | .base _ | .namedForeign _ _ _ => exact .none
  | .countAbove _ _ _ _ | .neg _ | .limit _ | .offset _ | .groupBy _ _ | .distinct | .having _
  | .countOf _ => cases hs

theorem truths_implies (hcompare : ComparisonsImply P g g') {ss : List Spec}
    (hs : Spec.arePositive ss = true) (heach : Spec.AllEachCompared P ss) (under : String) :
    List.Forall₂ Truth.Implies (Spec.truths present names row under (Spec.allOnMoments g id ss))
      (Spec.truths present names row under (Spec.allOnMoments g' id ss)) := by
  match ss with
  | [] => exact .nil
  | s :: rest =>
      obtain ⟨hfirst, hrest⟩ := Bool.and_eq_true_iff.mp hs
      have hhead := truth?_implies hcompare hfirst heach.1 under
      have htail := truths_implies hcompare hrest heach.2 under
      simp only [Spec.allOnMoments, Spec.truths]
      generalize (s.onMoments g id).truth? present names row under = first at hhead ⊢
      generalize (s.onMoments g' id).truth? present names row under = first' at hhead ⊢
      cases hhead with
      | none => exact htail
      | some h => exact .cons h htail

end

/-- **A tree without negation accepts a row of which its leaves say more.** -/
theorem Spec.accepts_of_implies (hcompare : ComparisonsImply P g g') {s : Spec}
    (hs : s.isPositive = true) (heach : s.EachCompared P) {under : String}
    (h : (s.onMoments g id).accepts present names row under = true) :
    (s.onMoments g' id).accepts present names row under = true := by
  have himplies : Option.Rel Truth.Implies ((s.onMoments g id).truth? present names row under)
      ((s.onMoments g' id).truth? present names row under) := truth?_implies hcompare hs heach under
  unfold accepts at h ⊢
  generalize (s.onMoments g id).truth? present names row under = said at himplies h
  generalize (s.onMoments g' id).truth? present names row under = said' at himplies ⊢
  cases himplies with
  | none => exact h
  | some himplies => exact himplies h

end Implies
end Criteria
