import Criteria.Proofs.Query.Holding
import Criteria.Proofs.Spec.Paging
import Criteria.Proofs.Spec.Retrieval
import Mathlib.Tactic.IntervalCases

/-!
# Reading page by page

A tree with a limit and an offset behind it finds a page of what the tree finds without any limit or offset
(`find_page`). Maps of columns hold no entities, so that pages can be read one after another in one session,
and until an empty one they are the whole list (`pages_partition`).
-/

namespace Criteria

/-! ## Trees with a page -/

/-- A page of a list of results. -/
def Result.page (limit offset : Nat) : Result → Result
  | .list items => .list ((items.drop offset).take limit)
  | r => r

/-- The maps of a page of rows are the page of their maps. -/
theorem hydrate_array_page (items : List SelectItem) (limit offset : Nat) (rows : List (List Element)) :
    hydrate .array items (page (some (limit : Int)) (some (offset : Int)) rows) =
      (hydrate .array items rows).map (Result.page limit offset) := by
  rw [page_natCast, hydrate, hydrate]
  simp [Except.map, Result.page, List.map_take, List.map_drop]

namespace Spec

/-- A tree with a limit and an offset behind it. -/
def withPage (c : Spec) (limit offset : Nat) : Spec := .conj [c, .limit (.int limit), .offset (.int offset)]

theorem clause?_withPage (b : Builder) (under : String) (c : Spec) (limit offset : Nat) :
    (c.withPage limit offset).clause? b under = c.clause? b under := by
  rw [withPage, clause?, clauses]
  rcases c.clause? b under with f | _ | d <;> rfl

/-- A tree behind which a page is put makes the builder that it makes without any limits and offsets, but for the
page of the statement. -/
theorem apply_withPage {c : Spec} (hcounts : c.countsRead = true) (limit offset : Nat) (root : Entity)
    (under : String) :
    (runFrom (Builder.ofEntity root under) ((c.withPage limit offset).apply under)).1 =
        (runFrom (Builder.ofEntity root under) (c.unpaged.apply under)).1 ∧
      ∀ b, runFrom (Builder.ofEntity root under) (c.unpaged.apply under) = (.ok (), b) →
        b.statement.limit = none ∧ b.statement.offset = none ∧
          runFrom (Builder.ofEntity root under) ((c.withPage limit offset).apply under) =
            (.ok (), b.paged (some limit) (some offset)) := by
  have hchanges : (c.withPage limit offset).changes under =
      c.changes under ++ [.limit (.int limit), .offset (.int offset)] := rfl
  -- The limit and the offset behind the tree are its last changes, and the last ones count.
  have hmore : ∀ b, Change.applyAll b [.limit (.int limit), .offset (.int offset)] =
      (.ok (), b.changed fun s => s.paged (some (limit : Int)) (some (offset : Int))) := fun _ => rfl
  obtain ⟨hsame, hpaged⟩ := apply_appended hchanges (fun b => c.clause?_withPage b under limit offset) hmore
    (fun st d => by cases d <;> rfl) (Builder.ofEntity root under)
  have hunpaged : runFrom (Builder.ofEntity root under) (c.unpaged.apply under) = _ :=
    apply_unpaged hcounts under (Builder.ofEntity root under) none none
  rw [hunpaged]
  refine ⟨hsame, ?_⟩
  intro b hb
  rcases hrun : runFrom (Builder.ofEntity root under) (c.apply under) with ⟨f | u, b₁⟩
  · rw [hrun] at hb
    cases hb
  · rw [hrun] at hb
    cases hb
    exact ⟨rfl, rfl, hpaged b₁ hrun⟩

end Spec

namespace Repository

variable (repo : Repository) {c : Spec}

/-! ## Pages of what is found -/

/-- **A page is a page of what is found without it.** It is refused for what the tree is refused for without
limits and offsets, and otherwise only for a count without room. -/
theorem find_page (s : Session) (hcounts : c.countsRead = true) (limit offset : Nat) :
    (runFrom s (repo.find .all (.spec (c.withPage limit offset)) (some .asArray))).1 =
      (runFrom s (repo.find .all (.spec c.unpaged) (some .asArray))).1.bind fun whole =>
        if Cell.hasRoom limit && Cell.hasRoom offset then .ok (whole.page limit offset)
        else .error .integerTooLarge := by
  obtain ⟨hsame, hpaged⟩ := Spec.apply_withPage hcounts limit offset repo.entity repo.rootAlias
  cases hsession : repo.hasSession with
  | false =>
      rw [find_outcome, find_outcome, hsession]
      rfl
  | true =>
      rcases hwhole : repo.builder (.spec c.unpaged) none with ⟨f | u, b⟩
      · have hfault : (repo.builder (.spec (c.withPage limit offset)) none).1 = .error f :=
          hsame.trans (congrArg Prod.fst hwhole)
        rw [find_of_builder_error .all _ hsession (Prod.ext hfault rfl),
          find_of_builder_error .all _ hsession hwhole]
        rfl
      · obtain ⟨hlimit, hoffset, hpage⟩ := hpaged b hwhole
        have hpage' : repo.builder (.spec (c.withPage limit offset)) none = _ := hpage
        rw [← formOf, find_of_builder .array hsession hpage', find_of_builder .array hsession hwhole]
        have hstatement : (b.paged (some (limit : Int)) (some (offset : Int))).statement =
            b.statement.paged (some (limit : Int)) (some (offset : Int)) := rfl
        have hitems : (b.statement.paged (some (limit : Int)) (some (offset : Int))).items =
            b.statement.items := rfl
        -- Both counts are bound, and then the page is cut out of the rows and out of their maps alike.
        have hrooms : (pageCounts (some (limit : Int)) (some (offset : Int))).all Cell.hasRoom =
            (Cell.hasRoom limit && Cell.hasRoom offset) := by simp [pageCounts]
        rw [hstatement, hitems, Statement.run_paged hlimit hoffset, hrooms]
        generalize b.statement.run s.database = found
        generalize (Cell.hasRoom limit && Cell.hasRoom offset) = room
        cases found with
        | error f => rfl
        | ok rows =>
            cases room with
            | false => rfl
            | true =>
                have hpages := hydrate_array_page b.statement.items limit offset
                  (rows.map fun row => row.map (Session.shown s.held))
                rw [page_map] at hpages
                exact hpages

/-! ## Reading page by page -/

/-- Where there is room, what comes of a value is no fault. -/
theorem bind_of_room {α β : Type} {room : Bool} {a : α} {f : α → β} {e : Fault} (h : room = true) :
    ((.ok a : Except Fault α).bind fun x => if room then .ok (f x) else .error e) = .ok (f a) := by
  rw [h]
  rfl

/-- What is read of pages of one size, from the one of a number on, until an empty one: one page after another,
in the session that the page before leaves. -/
inductive PagesRead (c : Spec) (size : Nat) : Nat → Session → List Result → Prop where
  | done {k : Nat} {s t : Session}
      (empty : runFrom s (repo.find .all (.spec (c.withPage size (k * size))) (some .asArray)) =
        (.ok (.list []), t)) : PagesRead c size k s []
  | more {k : Nat} {s t : Session} {page rest : List Result}
      (found : runFrom s (repo.find .all (.spec (c.withPage size (k * size))) (some .asArray)) =
        (.ok (.list page), t))
      (some : page ≠ []) (next : PagesRead c size (k + 1) t rest) : PagesRead c size k s (page ++ rest)

section Reading

variable {repo} {size : Nat} {items : List Result}

variable (repo c size items) in
/-- Whether pages are those of a list, in every session that has the database and holds the entities of one. -/
def PagesOf (s : Session) : Prop :=
  ∀ t : Session, t.database = s.database → t.held = s.held → ∀ k, k * size < items.length + size →
    (runFrom t (repo.find .all (.spec (c.withPage size (k * size))) (some .asArray))).1 =
      .ok (.list ((items.drop (k * size)).take size))

/-- Reading a page leaves a session in which pages are the same. -/
theorem PagesOf.next {s t : Session} (h : repo.PagesOf c size items s) {spec : Operand}
    {outcome : Except Fault Result} (hrun : runFrom s (repo.find .all spec (some .asArray)) = (outcome, t)) :
    repo.PagesOf c size items t := by
  obtain ⟨hdatabase, hheld⟩ := repo.find_array_session spec s
  rw [hrun] at hdatabase hheld
  intro u hu hu' k hk
  exact h u (hu.trans hdatabase) (hu'.trans hheld) k hk

/-- The page of a number and the pages behind it are the rest of the list. -/
theorem take_append_drop_page (k : Nat) :
    (items.drop (k * size)).take size ++ items.drop ((k + 1) * size) = items.drop (k * size) := by
  have hnext : items.drop ((k + 1) * size) = (items.drop (k * size)).drop size := by
    rw [List.drop_drop, Nat.succ_mul]
  rw [hnext, List.take_append_drop]

/-- A page of positive size is empty where the list is at its end. -/
theorem page_eq_nil_iff (hsize : 1 ≤ size) {k : Nat} :
    (items.drop (k * size)).take size = [] ↔ items.length ≤ k * size := by
  rw [List.take_eq_nil_iff, List.drop_eq_nil_iff]
  omega

/-- What is read page by page is what is left of the list. -/
theorem eq_of_pagesRead (hsize : 1 ≤ size) {k : Nat} {s : Session} {read : List Result}
    (h : repo.PagesRead c size k s read) (hpages : repo.PagesOf c size items s)
    (hk : k * size < items.length + size) : read = items.drop (k * size) := by
  induction h with
  | @done k s t empty =>
      have hpage := hpages s rfl rfl k hk
      rw [empty] at hpage
      have hnil : (items.drop (k * size)).take size = [] := by simpa using hpage
      exact (List.drop_eq_nil_of_le ((page_eq_nil_iff hsize).mp hnil)).symm
  | @more k s t page rest found some next ih =>
      have hpage := hpages s rfl rfl k hk
      rw [found] at hpage
      obtain rfl : page = (items.drop (k * size)).take size := by simpa using hpage
      have hlast : ¬ items.length ≤ k * size := fun hend => some ((page_eq_nil_iff hsize).mpr hend)
      have hnext : (k + 1) * size < items.length + size := by
        rw [Nat.succ_mul]
        omega
      rw [ih (hpages.next found) hnext, take_append_drop_page]

/-- What is left of the list can be read page by page: it gets shorter with each page that is not empty. -/
theorem pagesRead_drop (hsize : 1 ≤ size) (k : Nat) (s : Session) (hpages : repo.PagesOf c size items s)
    (hk : k * size < items.length + size) : repo.PagesRead c size k s (items.drop (k * size)) := by
  rcases hrun : runFrom s (repo.find .all (.spec (c.withPage size (k * size))) (some .asArray)) with ⟨o, t⟩
  have hpage := hpages s rfl rfl k hk
  rw [hrun] at hpage
  obtain rfl : o = _ := hpage
  by_cases hend : items.length ≤ k * size
  · rw [(page_eq_nil_iff hsize).mpr hend] at hrun
    rw [List.drop_eq_nil_of_le hend]
    exact .done hrun
  · have hnext : (k + 1) * size < items.length + size := by
      rw [Nat.succ_mul]
      omega
    rw [← take_append_drop_page]
    refine .more hrun (fun hnil => hend ((page_eq_nil_iff hsize).mp hnil)) ?_
    exact pagesRead_drop hsize (k + 1) t (hpages.next hrun) hnext
termination_by items.length - k * size
decreasing_by
  rw [Nat.succ_mul]
  omega

end Reading

/-- **Pages partition the result.** Where a tree cannot be found without its limits and offsets, no page of it can,
for the same reason. Otherwise its pages, read one after another until an empty one, are the whole list, as far
as their counts have room. The limit and the offset behind the tree replace those in it, and its orders are kept,
depth first and from left to right. -/
theorem pages_partition (repo : Repository) (c : Spec) (size : Nat) (hcounts : c.countsRead = true)
    (hsize : 1 ≤ size) (s : Session) :
    (∀ f, (runFrom s (repo.find .all (.spec c.unpaged) (some .asArray))).1 = .error f →
      ∀ k, (runFrom s (repo.find .all (.spec (c.withPage size (k * size))) (some .asArray))).1 = .error f) ∧
    (∀ items, (runFrom s (repo.find .all (.spec c.unpaged) (some .asArray))).1 = .ok (.list items) →
      Cell.hasRoom size = true →
      (∀ k, k * size < items.length + size → Cell.hasRoom (k * size : Nat) = true) →
      ∀ read, repo.PagesRead c size 0 s read ↔ read = items) ∧
    ∀ b, repo.builder (.spec c.unpaged) none = (.ok (), b) → ∀ k, ∃ b',
      repo.builder (.spec (c.withPage size (k * size))) none = (.ok (), b') ∧
        b'.statement = { b.statement with limit := some (size : Int), offset := some ((k * size : Nat) : Int) } ∧
        ((c.orders repo.rootAlias).mapM fun o => o.key b') = .ok b'.statement.sorting := by
  refine ⟨?_, ?_, ?_⟩
  · intro f hwhole k
    rw [repo.find_page s hcounts, hwhole]
    rfl
  · intro items hwhole hroom hrooms read
    -- Reading leaves the database and what is held alone, so that every page is one of the same list.
    have hpages : repo.PagesOf c size items s := by
      intro t hdatabase hheld k hk
      have hboth : (Cell.hasRoom size && Cell.hasRoom (k * size : Nat)) = true := by
        rw [hroom, hrooms k hk, Bool.and_self]
      rw [repo.find_page t hcounts, find_congr repo .all _ _ hdatabase hheld, hwhole]
      exact bind_of_room hboth
    have hstart : 0 * size < items.length + size := by omega
    have hall : items.drop (0 * size) = items := by simp
    constructor
    · intro hread
      rw [eq_of_pagesRead hsize hread hpages hstart, hall]
    · rintro rfl
      have hread := pagesRead_drop hsize 0 s hpages hstart
      rwa [hall] at hread
  · intro b hb k
    obtain ⟨-, hpaged⟩ := Spec.apply_withPage hcounts size (k * size) repo.entity repo.rootAlias
    obtain ⟨-, -, hpage⟩ := hpaged b hb
    refine ⟨_, hpage, rfl, ?_⟩
    -- A page adds no order.
    obtain ⟨keys, hkeys, hsorting⟩ := Spec.mapM_orders_of_apply hpage
    have horders : (c.withPage size (k * size)).orders repo.rootAlias = c.orders repo.rootAlias := by
      simp [Spec.orders, Spec.withPage, Spec.changes, Spec.changesAll, Change.order?]
    rw [horders] at hkeys
    rw [hkeys, hsorting]
    rfl

/-- Users with their posts, of which there are five rows, are read in pages of two, whatever the tree itself says
about its page. -/
theorem users_with_posts_read :
    ∃ items : List Result, items.length = 5 ∧
      ({ entity := .user } : Repository).PagesRead
        (.conj [.join .left none "posts" "p",
          .named "Newest" none (.conj [.orderBy none "id" .descending, .limit (.int 1)]),
          .orderBy (some "p") "id" .ascending, .offset (.int 3)])
        2 0 { database := .sample } items := by
  obtain ⟨-, hread, -⟩ := pages_partition { entity := .user }
    (.conj [.join .left none "posts" "p",
      .named "Newest" none (.conj [.orderBy none "id" .descending, .limit (.int 1)]),
      .orderBy (some "p") "id" .ascending, .offset (.int 3)])
    2 rfl (by decide) { database := .sample }
  -- Without its limit and offset the tree retrieves users.
  have hbuild : ({ entity := .user } : Repository).builder (.spec (Spec.unpaged
      (.conj [.join .left none "posts" "p",
        .named "Newest" none (.conj [.orderBy none "id" .descending, .limit (.int 1)]),
        .orderBy (some "p") "id" .ascending, .offset (.int 3)]))) none = (.ok (), _) := rfl
  have hretrieves := @Spec.retrieves_of_apply .user _ _ _ rfl hbuild
  have hwhole := find_of_builder .array rfl hbuild { database := .sample }
  rw [hretrieves.run_of_distinctNames .sample ⟨[], rfl⟩ (by decide +kernel)] at hwhole
  have hfive := (hretrieves.length_results .sample).trans (by decide +kernel : _ = 5)
  refine ⟨_, ?_, (hread _ hwhole (by decide) ?_ _).mpr rfl⟩
  · rw [List.length_map, List.length_map, hfive]
  · intro k hk
    rw [List.length_map, List.length_map, hfive] at hk
    have hsmall : k < 4 := by omega
    interval_cases k <;> decide

end Repository
end Criteria
