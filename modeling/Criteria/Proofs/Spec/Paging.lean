import Criteria.Proofs.Builder.History
import Criteria.Proofs.Statement.Paging

/-!
# Limits and offsets in a tree

A limit or an offset anywhere in a tree replaces the one before it, and nothing else that the tree does depends
on them. So a tree makes the builder that it makes without its limits and offsets, but for the page of the
statement (`Spec.apply_unpaged`). Orders replace nothing: the statement has the keys of all of them, depth
first and from left to right (`Change.mapM_orders`).
-/

namespace Criteria

/-! ## Trees without limits and offsets -/

namespace Spec

def isPaging : Spec → Bool
  | .limit _ | .offset _ => true
  | _ => false

mutual

/-- The tree without its limits and offsets. Where one cannot be left out, an empty node takes its place. -/
def unpaged : Spec → Spec
  | .conj cs => .conj (unpagedAll cs)
  | .disj cs => .disj (unpagedAll cs)
  | .neg c => .neg (unpaged c)
  | .having c => .having (unpaged c)
  | .countOf (some c) => .countOf (some (unpaged c))
  | .named t a c => .named t a (unpaged c)
  | .limit _ | .offset _ => .idle
  | s => s

def unpagedAll : List Spec → List Spec
  | [] => []
  | s :: rest => if s.isPaging then unpagedAll rest else unpaged s :: unpagedAll rest

end

mutual

/-- Whether every limit and offset of a tree can be read as a number. -/
def countsRead : Spec → Bool
  | .conj cs | .disj cs => countsReadAll cs
  | .neg c | .having c | .countOf (some c) | .named _ _ c => countsRead c
  | .limit v | .offset v => (Builder.countOf v).isOk
  | _ => true

def countsReadAll : List Spec → Bool
  | [] => true
  | s :: rest => countsRead s && countsReadAll rest

end

/-! ### Conditions -/

mutual

/-- Limits and offsets contribute no condition. -/
theorem clause?_unpaged (b : Builder) (under : String) (s : Spec) :
    s.unpaged.clause? b under = s.clause? b under := by
  match s with
  | .conj cs | .disj cs => simp only [unpaged, clause?, clauses_unpaged b under cs]
  | .neg c => simp only [unpaged, clause?, clause?_unpaged b under c]
  | .countOf (some c) => exact clause?_unpaged b under c
  | .named _ a c => exact clause?_unpaged b (effectiveAlias a under) c
  | .filter _ _ _ | .countAbove _ _ _ _ | .join _ _ _ _ | .limit _ | .offset _ | .orderBy _ _ _
  | .groupBy _ _ | .distinct | .having _ | .countOf none | .idle | .base _ | .namedForeign _ _ _ => rfl

theorem clauses_unpaged (b : Builder) (under : String) (cs : List Spec) :
    clauses b under (unpagedAll cs) = clauses b under cs := by
  match cs with
  | [] => rfl
  | s :: rest =>
      have hrest := clauses_unpaged b under rest
      rw [unpagedAll]
      split
      · rename_i hpaging
        have hnone : s.clause? b under = .ok none := by cases s <;> first | rfl | cases hpaging
        rw [clauses, hnone, hrest]
        cases clauses b under rest <;> rfl
      · rw [clauses, clauses, clause?_unpaged b under s, hrest]

end

end Spec

/-! ### Changes -/

namespace Change

/-- The change without limits and offsets, unless it is one. -/
def unpaged? : Change → Option Change
  | .limit _ | .offset _ => none
  | .having under child => some (.having under child.unpaged)
  | c => some c

/-- Whether a change that is a limit or an offset can be read as a number. -/
def countRead : Change → Bool
  | .limit v | .offset v => (Builder.countOf v).isOk
  | _ => true

end Change

namespace Spec

mutual

/-- Without its limits and offsets a tree makes its other changes. -/
theorem changes_unpaged (under : String) (s : Spec) :
    s.unpaged.changes under = (s.changes under).filterMap Change.unpaged? := by
  match s with
  | .conj cs | .disj cs => exact changesAll_unpaged under cs
  | .neg c => exact changes_unpaged under c
  | .named _ a c => exact changes_unpaged (effectiveAlias a under) c
  | .having c =>
      rw [unpaged, changes, changes, List.filterMap_append, changes_unpaged under c]
      rfl
  | .countOf (some c) => exact congrArg (Change.countRows :: ·) (changes_unpaged under c)
  | .filter _ _ _ | .countAbove _ _ _ _ | .join _ _ _ _ | .limit _ | .offset _ | .orderBy _ _ _
  | .groupBy _ _ | .distinct | .countOf none | .idle | .base _ | .namedForeign _ _ _ => rfl

theorem changesAll_unpaged (under : String) (cs : List Spec) :
    changesAll under (unpagedAll cs) = (changesAll under cs).filterMap Change.unpaged? := by
  match cs with
  | [] => rfl
  | s :: rest =>
      have hrest := changesAll_unpaged under rest
      rw [unpagedAll, changesAll, List.filterMap_append]
      split
      · rename_i hpaging
        have hnone : (s.changes under).filterMap Change.unpaged? = [] := by
          cases s <;> first | rfl | cases hpaging
        rw [hnone, hrest]
        rfl
      · rw [changesAll, changes_unpaged under s, hrest]

end

mutual

/-- The limits and offsets among the changes of a tree are those of the tree. -/
theorem countRead_of_mem_changes {under : String} {s : Spec} (hs : s.countsRead = true) :
    ∀ c ∈ s.changes under, c.countRead = true := by
  match s with
  | .conj cs | .disj cs => exact @countRead_of_mem_changesAll under cs hs
  | .neg c => exact countRead_of_mem_changes (s := c) hs
  | .named _ a c => exact countRead_of_mem_changes (s := c) hs
  | .having c =>
      intro d hd
      rcases List.mem_append.mp hd with hd | hd
      · exact countRead_of_mem_changes (s := c) hs d hd
      · obtain rfl := List.mem_singleton.mp hd
        rfl
  | .countOf (some c) =>
      intro d hd
      rcases List.mem_cons.mp hd with rfl | hd
      · rfl
      · exact countRead_of_mem_changes (s := c) hs d hd
  | .limit v | .offset v => simpa [changes, Change.countRead, countsRead] using hs
  | .join _ _ _ _ | .orderBy _ _ _ | .groupBy _ _ | .distinct | .countOf none =>
      simp [changes, Change.countRead]
  | .filter _ _ _ | .countAbove _ _ _ _ | .idle | .base _ | .namedForeign _ _ _ => simp [changes]

theorem countRead_of_mem_changesAll {under : String} {cs : List Spec} (hcs : countsReadAll cs = true) :
    ∀ c ∈ changesAll under cs, c.countRead = true := by
  match cs with
  | [] => simp [changesAll]
  | s :: rest =>
      obtain ⟨hfirst, hrest⟩ := Bool.and_eq_true_iff.mp hcs
      intro c hc
      rcases List.mem_append.mp hc with hc | hc
      · exact countRead_of_mem_changes hfirst c hc
      · exact countRead_of_mem_changesAll hrest c hc

end

end Spec

/-! ## Builders and pages -/

/-- The builder with a page in place of that of its statement. -/
def Builder.paged (b : Builder) (limit offset : Option Int) : Builder :=
  b.changed fun s => s.paged limit offset

namespace Change

/-- What is no limit and no offset does not mind the page. -/
theorem apply_paged {c d : Change} (h : c.unpaged? = some d) (b : Builder) (limit offset : Option Int) :
    d.apply (b.paged limit offset) = (c.apply b).map fun b' => b'.paged limit offset := by
  -- No change but a limit or an offset reads or writes the page.
  cases c with
  | limit v | offset v => cases h
  | join k under f n =>
      cases h
      show (b.joinStep f n under k.isOuter).map _ = _
      rw [apply]
      cases b.joinStep f n under k.isOuter <;> rfl
  | orderBy under f dir =>
      cases h
      show (Spec.sortKey b under f dir).map _ = _
      rw [apply]
      cases Spec.sortKey b under f dir <;> rfl
  | groupBy under f =>
      cases h
      show (b.term f under).map _ = _
      rw [apply]
      cases b.term f under <;> rfl
  | having under child =>
      cases h
      rw [apply, apply, Spec.clause?_unpaged, Builder.paged, Spec.clause?_changed]
      rcases child.clause? b under with f | _ | c <;> rfl
  | distinct | countRows =>
      cases h
      rfl

/-- A limit or an offset makes nothing but a page. -/
theorem exists_of_unpaged?_eq_none {c : Change} (h : c.unpaged? = none) (hread : c.countRead = true)
    (b : Builder) : ∃ b', c.apply b = .ok b' ∧ ∀ limit offset, b'.paged limit offset = b.paged limit offset := by
  cases c with
  | limit v | offset v =>
      rw [apply]
      rw [countRead] at hread
      cases hv : Builder.countOf v with
      | error f =>
          rw [hv] at hread
          cases hread
      | ok n => exact ⟨_, rfl, fun _ _ => rfl⟩
  | _ => cases h

/-- Changes make the same builder without their limits and offsets, but for the page. -/
theorem applyAll_unpaged {cs : List Change} (hread : ∀ c ∈ cs, c.countRead = true) (b : Builder)
    (limit offset : Option Int) :
    applyAll (b.paged limit offset) (cs.filterMap unpaged?) =
      ((applyAll b cs).1, (applyAll b cs).2.paged limit offset) := by
  induction cs generalizing b with
  | nil => rfl
  | cons c rest ih =>
      have hrest := ih fun d hd => hread d (List.mem_cons_of_mem _ hd)
      rw [List.filterMap_cons]
      cases hc : c.unpaged? with
      | none =>
          obtain ⟨b', happly, hpage⟩ := exists_of_unpaged?_eq_none hc (hread c List.mem_cons_self) b
          rw [applyAll, happly, ← hpage]
          exact hrest b'
      | some d =>
          rw [applyAll, applyAll, apply_paged hc]
          cases c.apply b with
          | error f => rfl
          | ok b' => exact hrest b'

end Change

/-- **Only the last page counts.** A tree without its limits and offsets makes the builder that it makes with
them, but for the page of the statement, and it fails where and as it fails with them. -/
theorem Spec.apply_unpaged {s : Spec} (hs : s.countsRead = true) (under : String) (b : Builder)
    (limit offset : Option Int) :
    runFrom (b.paged limit offset) (s.unpaged.apply under) =
      ((runFrom b (s.apply under)).1, (runFrom b (s.apply under)).2.paged limit offset) := by
  rw [run_apply, run_apply, changes_unpaged, Change.applyAll_unpaged (countRead_of_mem_changes hs)]
  rcases Change.applyAll b (s.changes under) with ⟨f | u, b₁⟩
  · rfl
  · simp only
    rw [clause?_unpaged, Builder.paged, clause?_changed]
    rcases s.clause? b₁ under with f | _ | c <;> rfl

namespace Spec

/-- A tree that makes the changes of another and then some of the statement alone makes the same builder but for
them, and fails as the other does. -/
theorem apply_appended {s t : Spec} {under : String} {more : List Change} {f : Statement → Statement}
    (hchanges : t.changes under = s.changes under ++ more)
    (hclause : ∀ b, t.clause? b under = s.clause? b under)
    (hmore : ∀ b, Change.applyAll b more = (.ok (), b.changed f))
    (hf : ∀ st c, f (st.addOptional Statement.addCondition c) =
      (f st).addOptional Statement.addCondition c) (b : Builder) :
    (runFrom b (t.apply under)).1 = (runFrom b (s.apply under)).1 ∧
      ∀ b', runFrom b (s.apply under) = (.ok (), b') →
        runFrom b (t.apply under) = (.ok (), b'.changed f) := by
  rw [run_apply, run_apply, hchanges, Change.applyAll_append]
  rcases Change.applyAll b (s.changes under) with ⟨e | u, b₁⟩
  · exact ⟨rfl, fun b' h => by cases h⟩
  · simp only [hmore, hclause, clause?_changed]
    cases s.clause? b₁ under with
    | error e => exact ⟨rfl, fun b' h => by cases h⟩
    | ok c =>
        refine ⟨rfl, ?_⟩
        rintro b' ⟨⟩
        simp only [Builder.changed, hf]

end Spec

/-! ## Orders -/

/-- A field to order by under an alias, and the direction. -/
structure Order where
  under : String
  field : String
  direction : SortDirection

def Order.key (b : Builder) (o : Order) : Except Fault SortKey := Spec.sortKey b o.under o.field o.direction

/-- What can be ordered by can be ordered by in the same way after joins. -/
theorem Order.key_of_grownBy {made : List JoinMade} {b b' : Builder} (hb : b.GrownBy made b') {o : Order}
    {k : SortKey} (h : o.key b = .ok k) : o.key b' = .ok k := by
  obtain ⟨x, hx, hk⟩ := bind_eq_ok.mp h
  obtain ⟨s, hs, -⟩ := bind_eq_ok.mp hx
  have hfield : b'.field o.field o.under = b.field o.field o.under := by
    unfold Builder.field
    rw [hs, hb.source hs]
  refine bind_eq_ok.mpr ⟨x, ?_, hk⟩
  rw [hfield, hx]

/-- A key stays what it is when a builder grows. -/
theorem Order.mapM_key_of_grownBy {made : List JoinMade} {b b' : Builder} (hb : b.GrownBy made b')
    {os : List Order} {keys : List SortKey} (h : (os.mapM fun o => o.key b) = .ok keys) :
    (os.mapM fun o => o.key b') = .ok keys := by
  induction os generalizing keys with
  | nil => exact h
  | cons o rest ih =>
      rw [List.mapM_cons] at h ⊢
      obtain ⟨k, hk, h⟩ := bind_eq_ok.mp h
      obtain ⟨ks, hks, h⟩ := bind_eq_ok.mp h
      rw [key_of_grownBy hb hk, ih hks]
      exact h

namespace Change

/-- What a change orders by, if it is an order. -/
def order? : Change → Option Order
  | .orderBy under f d => some ⟨under, f, d⟩
  | _ => none

/-- A change adds the key that it orders by and keeps those before. -/
theorem sorting_of_apply {b b' : Builder} {c : Change} (h : c.apply b = .ok b') :
    ∃ keys, (c.order?.toList.mapM fun o => o.key b) = .ok keys ∧
      b'.statement.sorting = b.statement.sorting ++ keys := by
  cases c with
  | orderBy under f d =>
      obtain ⟨k, hk, rfl⟩ := map_eq_ok.mp h
      refine ⟨[k], ?_, rfl⟩
      show ([⟨under, f, d⟩] : List Order).mapM (fun o => o.key b) = _
      rw [List.mapM_cons, Order.key, hk]
      rfl
  | having under child =>
      obtain ⟨c, -, rfl⟩ := map_eq_ok.mp h
      exact ⟨[], rfl, by cases c <;> simp [Statement.addOptional, Statement.addGroupCondition]⟩
  | distinct | countRows =>
      cases h
      exact ⟨[], rfl, by simp [Statement.countRows]⟩
  | join k under f n | limit n | offset n | groupBy under f =>
      obtain ⟨x, -, rfl⟩ := map_eq_ok.mp h
      exact ⟨[], rfl, by simp [Builder.afterJoin, Statement.addJoin, Statement.addGrouping]⟩

/-- **Orders accumulate.** The statement is sorted by the keys of all orders among some changes, in order, and
these keys are what the orders mean to the builder in the end. -/
theorem sorting_of_applyAll {b b' : Builder} {cs : List Change} (h : applyAll b cs = (.ok (), b')) :
    ∃ keys, ((cs.filterMap order?).mapM fun o => o.key b') = .ok keys ∧
      b'.statement.sorting = b.statement.sorting ++ keys := by
  induction cs generalizing b with
  | nil =>
      cases h
      exact ⟨[], rfl, by simp⟩
  | cons c rest ih =>
      obtain ⟨b₁, hc, hrest⟩ := applyAll_cons_eq_ok.mp h
      obtain ⟨keys, hkeys, hsorting⟩ := sorting_of_apply hc
      obtain ⟨others, hothers, hall⟩ := ih hrest
      -- The joins that are made later do not change what the key of the first order is.
      have hgrown := (grownBy_of_apply hc).trans (grownBy_applyAll b₁ rest)
      rw [hrest] at hgrown
      refine ⟨keys ++ others, ?_, ?_⟩
      · rw [← List.singleton_append, List.filterMap_append, List.mapM_append, hothers]
        have hfirst : [c].filterMap order? = c.order?.toList := by
          cases horder : c.order? <;> simp [horder]
        rw [hfirst, Order.mapM_key_of_grownBy hgrown hkeys]
        rfl
      · rw [hall, hsorting, List.append_assoc]

end Change
/-- The orders of a tree, depth first and from left to right. -/
def Spec.orders (under : String) (s : Spec) : List Order := (s.changes under).filterMap Change.order?

/-- A tree sorts by the keys of its orders, behind those that are there. -/
theorem Spec.mapM_orders_of_apply {under : String} {s : Spec} {b b' : Builder}
    (h : runFrom b (s.apply under) = (.ok (), b')) :
    ∃ keys, ((s.orders under).mapM fun o => o.key b') = .ok keys ∧
      b'.statement.sorting = b.statement.sorting ++ keys := by
  obtain ⟨b₁, c, hchanges, -, rfl⟩ := run_apply_eq_ok.mp h
  obtain ⟨keys, hkeys, hsorting⟩ := Change.sorting_of_applyAll hchanges
  refine ⟨keys, hkeys, ?_⟩
  rw [← hsorting]
  cases c <;> rfl

end Criteria
