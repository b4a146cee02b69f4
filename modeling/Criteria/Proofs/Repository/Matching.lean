import Criteria.Proofs.Query.Hydration
import Criteria.Proofs.Spec.Retrieval
import Mathlib.Data.List.Nodup

/-!
# What a repository matches

A tree of filters, joins and orders finds every record of the root from which some joined row makes the tree
true, each of them once (`match_finds_accepted`). This is so where the scope of the tree names its sources
plainly. Nothing refuses other scopes when they are built:

* where two sources have one name, the store refuses the statement;
* where a user is joined under the name of the posts' table, the store is not asked whether that user has
  posts, but whether there are posts whose key is their author's.
-/

namespace Criteria

/-! ## Found once -/

/-- The records found are those accepted, and no two of them have one key. -/
structure FoundOnce (accepted : Record → Prop) (records found : List Record) : Prop where
  nodup : (found.map Record.key).Nodup
  sound : ∀ r ∈ found, r ∈ records ∧ accepted r
  complete : ∀ r ∈ records, accepted r → ∃ t ∈ found, t.key = r.key

/-- Where keys are unique, the records found are exactly those accepted. -/
theorem FoundOnce.mem_iff {accepted : Record → Prop} {records found : List Record}
    (h : FoundOnce accepted records found) (hkeys : (records.map Record.key).Nodup) (r : Record) :
    r ∈ found ↔ r ∈ records ∧ accepted r := by
  constructor
  · exact h.sound r
  · rintro ⟨hr, haccepted⟩
    obtain ⟨t, ht, hkey⟩ := h.complete r hr haccepted
    rwa [← List.inj_on_of_nodup_map hkeys (h.sound t ht).1 hr hkey]

/-- Entities of one type are the same if their keys are. -/
theorem any_sameEntity (e : Entity) (r : Record) (seen : List Record) :
    ((seen.map fun t => (e, t)).any fun x => sameEntity x.1 e x.2 r) =
      decide (r.key ∈ seen.map Record.key) := by
  have hbeq : ∀ t : Record, sameEntity e e t r = decide (t.key = r.key) := by
    intro t
    simp only [sameEntity, beq_self_eq_true, Bool.true_and]
    rw [Bool.eq_iff_iff, beq_iff_eq, decide_eq_true_eq, eq_comm]
  rw [List.any_map, Bool.eq_iff_iff]
  simp [Function.comp_def, hbeq]

/-- Dropping repeated entities keeps one record of each key that was not seen before. -/
theorem exists_dropRepeatedEntities (e : Entity) (rs : List Record) (seen : List Record) :
    ∃ found : List Record,
      dropRepeatedEntities (seen.map fun r => (e, r)) (rs.map fun r => .entity e (some r)) =
        found.map (fun r => .entity e (some r)) ∧
      (found.map Record.key).Nodup ∧
      (∀ r ∈ found, r ∈ rs ∧ r.key ∉ seen.map Record.key) ∧
      ∀ r ∈ rs, r.key ∈ (seen ++ found).map Record.key := by
  -- The invariant: a record is left out only if its key was seen before or is found already.
  induction rs generalizing seen with
  | nil => exact ⟨[], rfl, by simp, by simp, by simp⟩
  | cons r rest ih =>
      by_cases hr : r.key ∈ seen.map Record.key
      · obtain ⟨found, heq, hnodup, hsound, hcomplete⟩ := ih seen
        refine ⟨found, ?_, hnodup, ?_, ?_⟩
        · rw [List.map_cons, dropRepeatedEntities, any_sameEntity, if_pos (by simpa using hr), heq]
        · intro t ht
          exact ⟨List.mem_cons_of_mem _ (hsound t ht).1, (hsound t ht).2⟩
        · intro t ht
          rcases List.mem_cons.mp ht with rfl | ht
          · rw [List.map_append]
            exact List.mem_append_left _ hr
          · exact hcomplete t ht
      · obtain ⟨found, heq, hnodup, hsound, hcomplete⟩ := ih (r :: seen)
        refine ⟨r :: found, ?_, ?_, ?_, ?_⟩
        · rw [List.map_cons, dropRepeatedEntities, any_sameEntity, if_neg (by simpa using hr)]
          exact congrArg _ heq
        · refine List.nodup_cons.mpr ⟨?_, hnodup⟩
          intro hmem
          obtain ⟨t, ht, hkey⟩ := List.mem_map.mp hmem
          have hnot := (hsound t ht).2
          rw [hkey] at hnot
          exact hnot List.mem_cons_self
        · intro t ht
          rcases List.mem_cons.mp ht with rfl | ht
          · exact ⟨List.mem_cons_self, hr⟩
          · obtain ⟨hmem, hnew⟩ := hsound t ht
            exact ⟨List.mem_cons_of_mem _ hmem, fun hkey => hnew (List.mem_cons_of_mem _ hkey)⟩
        · intro t ht
          rcases List.mem_cons.mp ht with rfl | ht
          · simp
          · have hmem := hcomplete t ht
            simp only [List.cons_append, List.map_cons, List.map_append, List.mem_cons,
              List.mem_append] at hmem ⊢
            tauto

/-- Rows of entities come back as their records, one of each key. -/
theorem hydrate_entities (e : Entity) (rs : List Record) :
    ∃ found : List Record,
      hydrate .object [.entity e] (rs.map fun r => [.entity e (some r)]) =
        .ok (.list (found.map (.entity e))) ∧
      (found.map Record.key).Nodup ∧ (∀ r ∈ found, r ∈ rs) ∧ ∀ r ∈ rs, ∃ t ∈ found, t.key = r.key := by
  obtain ⟨found, hdrop, hnodup, hsound, hcomplete⟩ := exists_dropRepeatedEntities e rs []
  refine ⟨found, ?_, hnodup, fun r hr => (hsound r hr).1, ?_⟩
  · have hflat : (rs.map fun r => [Element.entity e (some r)]).flatten =
        rs.map fun r => .entity e (some r) := by
      have hone := List.flatMap_singleton' (rs.map fun r => Element.entity e (some r))
      rw [List.flatMap_def, List.map_map] at hone
      exact hone
    rw [List.map_nil] at hdrop
    simp [hydrate, hflat, hdrop, Result.ofElement, Function.comp_def]
  · intro r hr
    have hkey := hcomplete r hr
    rw [List.nil_append] at hkey
    exact List.mem_map.mp hkey

/-! ## Accepted records -/

/-- Whether some joined row of a record makes a tree true, when relationships are asked for by `present`. -/
def Spec.Selects (s : Spec) (db : Database) (present : Row → Source → Relationship → Truth)
    (sc : Scope) (root : Entity) (under : String) (r : Record) : Prop :=
  ∃ row ∈ joinedRows db sc.joins [(.table root, some r)],
    s.accepts (present row) sc.names row under = true

/-- A scope whose sources have distinct names, and in which no user goes by the name of the posts' table. -/
structure Scope.Plain (sc : Scope) (root : Entity) : Prop where
  distinct : DistinctNames (sc.sources root)
  shown : ∀ s ∈ sc.sources root, s.entity = .user → sameName s.name Entity.post.table = false

/-- In a plain scope the store is asked what is meant. -/
theorem Spec.selects_asked {s : Spec} {db : Database} {sc : Scope} {root : Entity} {under : String}
    (hplain : sc.Plain root) (hnames : ∀ a x, sc.names.lookup a = some x → x ∈ sc.sources root) :
    s.Selects db (Relationship.asked db) sc root under =
      s.Selects db (Relationship.present db) sc root under := by
  funext r
  have hsame : ∀ row, s.accepts (Relationship.asked db row) sc.names row under =
      s.accepts (Relationship.present db row) sc.names row under := by
    intro row
    unfold Spec.accepts
    rw [Spec.truth?_congr]
    intro a x rel hx howner
    cases rel with
    | author => rfl
    | posts => simp [Relationship.asked, hplain.shown x (hnames a x hx) howner.symm]
  simp only [Selects, hsame]

/-! ## Matching -/

namespace Repository

/-- What a repository finds for a specification in a fresh session, as entities. -/
def matched (repo : Repository) (db : Database) (spec : Operand) : Except Fault Result :=
  (runFrom ({ database := db } : Session) (repo.find .all spec none)).1

/-- A fresh session shows entities as they are stored, in every form. -/
theorem find_fresh {repo : Repository} {spec : Operand} {b : Builder} (mode : Hydration) (db : Database)
    (hsession : repo.hasSession = true) (h : repo.builder spec none = (.ok (), b)) :
    (runFrom ({ database := db } : Session) (repo.find .all spec (formOf mode))).1 =
      (b.statement.run db).bind (hydrate mode b.statement.items) := by
  have hshown : ∀ a, Session.shown [] a = a := by
    rintro (⟨e, _ | r⟩ | ⟨type, c⟩) <;> rfl
  have hid : Session.shown [] = id := funext hshown
  rw [find_of_builder mode hsession h]
  simp [hid]

theorem matched_of_builder {repo : Repository} {db : Database} {spec : Operand} {b : Builder}
    (hsession : repo.hasSession = true) (h : repo.builder spec none = (.ok (), b)) :
    repo.matched db spec = (b.statement.run db).bind (hydrate .object b.statement.items) :=
  find_fresh .object db hsession h

/-- **Matching is sound and complete.** A tree of filters, joins and orders that can be built, with values
that the store accepts, finds every record of the root from which some joined row makes the tree true, and
each of them once, if the names of its scope are plain. If they are only distinct, what the tree says about
relationships is what the store is asked. If they are not distinct, the store finds a column ambiguous. -/
theorem match_finds_accepted (repo : Repository) (db : Database) (s : Spec)
    (hsession : repo.hasSession = true) (hs : s.isRetrieval = true)
    (hbuild : (repo.builder (.spec s) none).1 = .ok ())
    (hvalues : (repo.builder (.spec s) none).2.statement.BindsAll) :
    ∃ sc, s.scope repo.rootAlias (.ofRoot repo.rootAlias repo.entity) = some sc ∧
      (sc.Plain repo.entity →
        ∃ found, repo.matched db (.spec s) = .ok (.list (found.map (.entity repo.entity))) ∧
          FoundOnce (s.Selects db (Relationship.present db) sc repo.entity repo.rootAlias)
            (db.records repo.entity) found) ∧
      (DistinctNames (sc.sources repo.entity) →
        ∃ found, repo.matched db (.spec s) = .ok (.list (found.map (.entity repo.entity))) ∧
          FoundOnce (s.Selects db (Relationship.asked db) sc repo.entity repo.rootAlias)
            (db.records repo.entity) found) ∧
      (¬ DistinctNames (sc.sources repo.entity) →
        ∃ c : ColumnRef,
          repo.matched db (.spec s) = .error (.ambiguousColumn c.source.name c.column.name)) := by
  rcases hb : repo.builder (.spec s) none with ⟨outcome, b⟩
  rw [hb] at hbuild hvalues
  obtain rfl : outcome = .ok () := hbuild
  have happly : runFrom (Builder.ofEntity repo.entity repo.rootAlias) (s.apply repo.rootAlias) =
      (.ok (), b) := hb
  have hretrieves := Spec.retrieves_of_apply hs happly
  -- What is found is first said in terms of what the store is asked; in a plain scope that is what is meant.
  have hasked : DistinctNames (b.scope.sources repo.entity) →
      ∃ found, repo.matched db (.spec s) = .ok (.list (found.map (.entity repo.entity))) ∧
        FoundOnce (s.Selects db (Relationship.asked db) b.scope repo.entity repo.rootAlias)
          (db.records repo.entity) found := by
    intro hnames
    obtain ⟨rs, hresults, hrs⟩ := hretrieves.exists_records db
    obtain ⟨found, hhydrate, hnodup, hsound, hcomplete⟩ := hydrate_entities repo.entity rs
    refine ⟨found, ?_, hnodup, ?_, ?_⟩
    · rw [matched_of_builder hsession hb, hretrieves.run_of_distinctNames db hvalues hnames, hresults,
        hretrieves.items_eq]
      exact hhydrate
    · intro r hr
      obtain ⟨hmem, row, hrow, hholds⟩ := (hrs r).mp (hsound r hr)
      rw [Spec.holds_of_apply hs happly] at hholds
      exact ⟨hmem, row, hrow, hholds⟩
    · rintro r hr ⟨row, hrow, haccepts⟩
      refine hcomplete r ((hrs r).mpr ⟨hr, row, hrow, ?_⟩)
      rw [Spec.holds_of_apply hs happly]
      exact haccepts
  refine ⟨b.scope, Spec.scope_of_apply happly, ?_, hasked, ?_⟩
  · intro hplain
    rw [← Spec.selects_asked hplain fun a x hx => Spec.mem_sources_of_apply hs happly hx]
    exact hasked hplain.distinct
  · intro hnames
    obtain ⟨c, hc⟩ := hretrieves.run_of_clash db hvalues hnames
    refine ⟨c, ?_⟩
    rw [matched_of_builder hsession hb, hc]
    rfl

/-- Posts joined as `p` are found through; joined under the name of the users' table, they are refused by
the store. -/
theorem match_posts_joined_as_users :
    (∃ found : List Record, ({ entity := .user } : Repository).matched .sample
        (.spec (.join .join none "posts" "p")) = .ok (.list (found.map (.entity .user)))) ∧
    ∃ c : ColumnRef, ({ entity := .user } : Repository).matched .sample
        (.spec (.join .join none "posts" "users")) =
      .error (.ambiguousColumn c.source.name c.column.name) := by
  constructor
  · obtain ⟨sc, hsc, hfound, -, -⟩ := match_finds_accepted { entity := .user } .sample
      (.join .join none "posts" "p") rfl rfl rfl ⟨[], rfl⟩
    cases hsc
    obtain ⟨found, hmatched, -⟩ := hfound ⟨by decide +kernel, by decide +kernel⟩
    exact ⟨found, hmatched⟩
  · obtain ⟨sc, hsc, -, -, hclash⟩ := match_finds_accepted { entity := .user } .sample
      (.join .join none "posts" "users") rfl rfl rfl ⟨[], rfl⟩
    cases hsc
    exact hclash (by decide +kernel)

/-- A user without posts is not found by the lack of posts where it would be reached as `posts`. -/
example :
    (match ({ entity := .user } : Repository).matched .sample (.spec (.conj
      [.join .left none "posts" "p", .join .left (some "p") "author" "posts",
        .filter (some "posts") "posts" (.compare true .eq .null)])) with
    | .ok (.list found) => found.isEmpty
    | _ => false) = true := by
  decide +kernel

end Repository
end Criteria
