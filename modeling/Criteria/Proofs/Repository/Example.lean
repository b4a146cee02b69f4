import Criteria.Proofs.Repository.Limiting
import Criteria.Proofs.Repository.Widening
import Criteria.Proofs.Spec.Example

/-!
# Finding by example

A stored record can be found by what its columns stand for (`example_finds_alike`). Made of the fields that have a
value, the tree finds all records that agree with it there; made of all fields, only those that lack a value where
it does. What an example keeps to itself plays no part.
-/

namespace Criteria

/-- The records of an entity that agree with one in some columns. -/
def Database.agreeing (db : Database) (e : Entity) (u : Record) (cs : List Column) : List Record :=
  (db.records e).filter fun r => u.Agree e r cs

/-- Whether the records of an entity hold cells of their columns, and no two have the same key. -/
structure Database.Sound (db : Database) (e : Entity) : Prop where
  stores : ∀ r ∈ db.records e, ∀ c ∈ e.columns, c.type.Stores (r.cell e c.name)
  keys : ((db.records e).map Record.key).Nodup

/-- To agree everywhere is to agree where there is a value and to lack one elsewhere. -/
theorem Database.mem_agreeing_iff (db : Database) {e : Entity} {u : Record} {cs : List Column} (r : Record) :
    r ∈ db.agreeing e u cs ↔ r ∈ db.agreeing e u (u.present e cs) ∧
      ∀ c ∈ cs, u.cell e c.name = .null → r.cell e c.name = .null := by
  simp only [agreeing, List.mem_filter, decide_eq_true_eq, and_assoc]
  refine and_congr_right fun _ => ⟨fun h => ⟨?_, ?_⟩, fun ⟨hpresent, hlacking⟩ c hc => ?_⟩
  · exact fun c hc => h c (List.mem_of_mem_filter hc)
  · exact fun c hc hnull => (h c hc).trans hnull
  · by_cases hnull : u.cell e c.name = .null
    · exact (hlacking c hc hnull).trans hnull.symm
    · exact hpresent c (List.mem_filter.mpr ⟨hc, by simpa using hnull⟩)

/-- Where no key is used twice nothing is left out. -/
theorem firstOfKeys_of_nodup {rs : List Record} (h : (rs.map Record.key).Nodup) : firstOfKeys rs = rs := by
  induction rs with
  | nil => rfl
  | cons r rest ih =>
      obtain ⟨hnew, hrest⟩ := List.nodup_cons.mp h
      have hkept : (rest.filter fun t => t.key ≠ r.key) = rest := by
        refine List.filter_eq_self.mpr fun t ht => ?_
        have hne : t.key ≠ r.key := fun hkey => hnew (List.mem_map.mpr ⟨t, ht, hkey⟩)
        simpa using hne
      rw [firstOfKeys_cons, hkept, ih hrest]

namespace Spec

theorem isRetrieval_ofFields (fields : List (String × Value)) : (ofFields fields).isRetrieval = true := by
  rw [ofFields, isRetrieval, areRetrievals_eq, List.all_map]
  exact List.all_eq_true.mpr fun _ _ => rfl

end Spec

/-- Without joins and orders, a retrieval finds the records whose row passes the conditions. -/
theorem Statement.Retrieves.results_of_noJoins {root : Entity} {s : Statement} (h : s.Retrieves root)
    (hjoins : s.joins = []) (hsorting : s.sorting = []) (db : Database) :
    s.results db = ((db.records root).filter fun r =>
      (Clause.truthAll db [[(.table root, some r)]] [(.table root, some r)] s.conditions).holds).map
        fun r => [.entity root (some r)] := by
  have hrows : s.matchingRows db = ((db.records root).filter fun r =>
      (Clause.truthAll db [[(.table root, some r)]] [(.table root, some r)] s.conditions).holds).map
        fun r => [(.table root, some r)] := by
    rw [h.matchingRows_eq, hjoins]
    induction db.records root with
    | nil => rfl
    | cons r rest ih =>
        rw [List.flatMap_cons, ih, joinedRows, List.foldl_nil, List.filter_cons, List.filter_cons]
        split <;> rfl
  rw [h.results_of_sorted, hrows, List.map_map]
  · refine List.map_congr_left fun r _ => ?_
    simp [Row.record?]
  · rw [hsorting]
    exact List.pairwise_of_forall fun _ _ => rfl

namespace Repository

variable {repo : Repository} {x : Session} {u : Record} {cs : List Column}

/-- A tree that joins and orders nothing finds the records whose row it accepts, each once. -/
theorem outcome_of_noJoins {s : Spec} {b : Builder} (hsession : repo.hasSession = true)
    (hs : s.isRetrieval = true) (hb : repo.builder (.spec s) none = (.ok (), b)) (hjoins : b.statement.joins = [])
    (hsorting : b.statement.sorting = []) (hvalues : b.statement.BindsAll)
    (hkeys : ((x.database.records repo.entity).map Record.key).Nodup) :
    repo.outcome .all (.spec s) none x =
      .ok (.list (((x.database.records repo.entity).filter fun r =>
        s.accepts (Relationship.asked x.database [(.table repo.entity, some r)]) b.aliases
          [(.table repo.entity, some r)] repo.rootAlias).map fun r =>
            .entity repo.entity (x.shownFor repo.entity r))) := by
  have happly : runFrom (Builder.ofEntity repo.entity repo.rootAlias) (s.apply repo.rootAlias) = (.ok (), b) := hb
  have hretrieves := Spec.retrieves_of_apply hs happly
  have hcheck : b.statement.check = .ok () :=
    hretrieves.check_iff.mpr ⟨hvalues, by simp [hjoins, DistinctNames]⟩
  have hrun : b.statement.run x.database = .ok (b.statement.results x.database) :=
    Statement.run_eq_ok.mpr ⟨hcheck, rfl⟩
  have hfind := find_of_builder .object hsession hb x
  rw [hrun, hretrieves.results_of_noJoins hjoins hsorting, hretrieves.items_eq, Except.bind] at hfind
  simp only [Spec.holds_of_apply hs happly] at hfind
  generalize hfound : (x.database.records repo.entity).filter _ = found at hfind ⊢
  have hshown : (found.map fun r => [Element.entity repo.entity (some r)]).map
      (fun row => row.map (Session.shown x.held)) =
      (found.map (x.shownFor repo.entity)).map fun r => [.entity repo.entity (some r)] := by
    rw [List.map_map, List.map_map]
    rfl
  -- A session shows a record by one of its key.
  have hdistinct : ((found.map (x.shownFor repo.entity)).map Record.key).Nodup := by
    rw [List.map_map]
    have hsame : Record.key ∘ x.shownFor repo.entity = Record.key := funext (x.key_shownFor repo.entity)
    rw [hsame, ← hfound]
    exact hkeys.sublist (List.filter_sublist.map _)
  rw [hshown, hydrate_object_records, firstOfKeys_of_nodup hdistinct, List.map_map] at hfind
  exact hfind

/-- Equalities with what a stored record stands for find the records that agree with it. -/
theorem outcome_ofFields (hsession : repo.hasSession = true) (hsound : x.database.Sound repo.entity)
    (hu : u ∈ x.database.records repo.entity) (hcs : ∀ c ∈ cs, c ∈ repo.entity.columns) :
    repo.outcome .all (.spec (Spec.ofFields (u.values repo.entity cs))) none x =
      .ok (.list ((x.database.agreeing repo.entity u cs).map fun r =>
        .entity repo.entity (x.shownFor repo.entity r))) := by
  have hstored : ∀ r ∈ x.database.records repo.entity, ∀ c ∈ cs, c.type.Stores (r.cell repo.entity c.name) :=
    fun r hr c hc => hsound.stores r hr c (hcs c hc)
  obtain ⟨b, hb, hunder, hjoins, hsorting, hvalues⟩ :=
    Spec.exists_builder_ofFields repo.rootAlias hcs (hstored u hu)
  rw [outcome_of_noJoins hsession (Spec.isRetrieval_ofFields _) hb hjoins hsorting hvalues hsound.keys]
  have hkept : ((x.database.records repo.entity).filter fun r =>
      (Spec.ofFields (u.values repo.entity cs)).accepts
        (Relationship.asked x.database [(.table repo.entity, some r)]) b.aliases
        [(.table repo.entity, some r)] repo.rootAlias) = x.database.agreeing repo.entity u cs := by
    refine List.filter_congr fun r hr => ?_
    rw [Bool.eq_iff_iff, decide_eq_true_eq]
    exact Spec.accepts_ofFields hunder hcs (hstored r hr) (hstored u hu)
  rw [hkept]

/-- What a search finds that is answered with the records that agree with one in some columns. -/
def alike (repo : Repository) (x : Session) (u : Record) (cs : List Column) : Except Fault Result :=
  .ok (.list ((x.database.agreeing repo.entity u cs).map fun r => .entity repo.entity (x.shownFor repo.entity r)))

/-- What the three ways to search by example find, if the example is made of some columns of a record. -/
structure FindsExample (repo : Repository) (x : Session) (u : Record) (cs : List Column) : Prop where
  /-- From a map of values, the records that agree where the example has a value. -/
  ofPresentFields : repo.outcome .all (.spec (.ofPresentFields (u.values repo.entity cs))) none x =
    repo.alike x u (u.present repo.entity cs)
  /-- From an object that shows these values, the same. -/
  ofExample : ∀ attributes : List (String × Value),
    (attributes.filter fun f => Spec.isPublic f.1) = u.values repo.entity cs →
      repo.outcome .all (.spec (.ofExample attributes)) none x = repo.alike x u (u.present repo.entity cs)
  /-- From named values, the records that agree everywhere. -/
  ofFields : repo.outcome .all (.spec (.ofFields (u.values repo.entity cs))) none x = repo.alike x u cs
  /-- Those lack a value where the example does, and else agree with it like the others. -/
  lacking : ∀ r, r ∈ x.database.agreeing repo.entity u cs ↔
    r ∈ x.database.agreeing repo.entity u (u.present repo.entity cs) ∧
      ∀ c ∈ cs, u.cell repo.entity c.name = .null → r.cell repo.entity c.name = .null
  /-- The example is always found. -/
  itself : u ∈ x.database.agreeing repo.entity u cs
  /-- An example without values finds all there is. -/
  empty : u.present repo.entity cs = [] →
    x.database.agreeing repo.entity u (u.present repo.entity cs) = x.database.records repo.entity
  /-- What an object keeps to itself plays no part. -/
  hidden : ∀ attributes attributes' : List (String × Value),
    (attributes.filter fun f => Spec.isPublic f.1) = (attributes'.filter fun f => Spec.isPublic f.1) →
      ∀ (f : Fetch) (m : Option Modifier) (y : Session),
        repo.outcome f (.spec (.ofExample attributes)) m y = repo.outcome f (.spec (.ofExample attributes')) m y

/-- **A search by example finds its example, and nothing else.** -/
theorem example_finds_alike (hsession : repo.hasSession = true) (hsound : x.database.Sound repo.entity)
    (hu : u ∈ x.database.records repo.entity) (hcs : ∀ c ∈ cs, c ∈ repo.entity.columns) :
    repo.FindsExample x u cs := by
  have hpresent : repo.outcome .all (.spec (.ofPresentFields (u.values repo.entity cs))) none x =
      repo.alike x u (u.present repo.entity cs) := by
    rw [Spec.ofPresentFields_values]
    exact outcome_ofFields hsession hsound hu fun c hc => hcs c (List.mem_of_mem_filter hc)
  exact {
    ofPresentFields := hpresent
    ofExample := by
      intro attributes hattributes
      rw [Spec.ofExample_eq, hattributes]
      exact hpresent
    ofFields := outcome_ofFields hsession hsound hu hcs
    lacking := fun r => x.database.mem_agreeing_iff r
    itself := List.mem_filter.mpr ⟨hu, decide_eq_true fun _ _ => rfl⟩
    empty := by
      intro hnone
      rw [hnone]
      exact List.filter_eq_self.mpr fun r _ => decide_eq_true (List.forall_mem_nil _)
    hidden := by
      intro attributes attributes' hsame f m y
      rw [Spec.ofExample_eq, Spec.ofExample_eq, hsame] }

/-- Alice and Bob are active, and of the two Bob has no address. -/
theorem active_users_found :
    let alice : Record := [.int 1, .text "Alice", .text "admin", .int 30, .ofBool true, .text "alice@example.com",
      Database.stamp "2024-05-01T09:30:00"]
    let bob : Record := [.int 2, .text "Bob", .text "user", .int 25, .ofBool true, .null,
      Database.stamp "2024-05-01T10:05:00"]
    let users (s : Spec) : Except Fault Result :=
      ({ entity := .user } : Repository).outcome .all (.spec s) none { database := .sample }
    let active : List (String × Value) := [("active", .bool true), ("email", .null)]
    users (.ofPresentFields active) = .ok (.list [.entity .user alice, .entity .user bob]) ∧
      users (.ofExample (("_version", .int 7) :: active)) =
        .ok (.list [.entity .user alice, .entity .user bob]) ∧
      users (.ofFields active) = .ok (.list [.entity .user bob]) := by
  intro alice bob users active
  have hbob : bob ∈ Database.sample.records .user := by decide +kernel
  have hsound : Database.sample.Sound .user := ⟨by decide +kernel, by decide +kernel⟩
  have hfinds := @example_finds_alike { entity := .user } { database := .sample } bob
    [⟨"active", .boolean⟩, ⟨"email", .text⟩] rfl hsound hbob (by decide)
  have hactive : Database.sample.agreeing .user bob
      (bob.present .user [⟨"active", .boolean⟩, ⟨"email", .text⟩]) = [alice, bob] := by decide +kernel
  have hlacking : Database.sample.agreeing .user bob [⟨"active", .boolean⟩, ⟨"email", .text⟩] = [bob] := by
    decide +kernel
  have hmap := hfinds.ofPresentFields
  have hobject := hfinds.ofExample (("_version", .int 7) :: active) rfl
  have hnamed := hfinds.ofFields
  rw [alike, hactive] at hmap hobject
  rw [alike, hlacking] at hnamed
  exact ⟨hmap, hobject, hnamed⟩

end Repository
end Criteria
