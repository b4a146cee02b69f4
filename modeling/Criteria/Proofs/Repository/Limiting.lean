import Criteria.Proofs.Query.Hydration
import Criteria.Proofs.Repository.Agreement
import Criteria.Proofs.Repository.Matching
import Criteria.Proofs.Spec.Paging

/-!
# Limits and repeated entities

A limit takes rows away, and only then are entities that several rows repeat left out. So a limited tree finds
the entities of the first rows, which may be fewer than the limit allows although there are more to be found
(`limit_takes_rows`). It finds the first of all entities if each of these rows is of another entity, or if all
entities are among them.
-/

namespace Criteria

/-! ## The first record of each key -/

/-- The records of a list without those whose key has come before. -/
def firstOfKeys (rs : List Record) : List Record := rs.eraseDupsBy fun r t => r.key == t.key

theorem firstOfKeys_cons (r : Record) (rs : List Record) :
    firstOfKeys (r :: rs) = r :: firstOfKeys (rs.filter fun t => t.key ≠ r.key) := by
  simp [firstOfKeys, List.eraseDupsBy_cons]

theorem length_firstOfKeys_le (rs : List Record) : (firstOfKeys rs).length ≤ rs.length := by
  match rs with
  | [] => exact Nat.le_refl 0
  | r :: rest =>
      have hkept := List.length_filter_le (fun t : Record => decide (t.key ≠ r.key)) rest
      have hrest := length_firstOfKeys_le (rest.filter fun t => t.key ≠ r.key)
      rw [firstOfKeys_cons, List.length_cons, List.length_cons]
      omega
termination_by rs.length
decreasing_by exact Nat.lt_succ_of_le (List.length_filter_le _ _)

theorem firstOfKeys_eq_nil_iff {rs : List Record} : firstOfKeys rs = [] ↔ rs = [] := by
  cases rs with
  | nil => exact ⟨fun _ => rfl, fun _ => rfl⟩
  | cons r rest => simp [firstOfKeys_cons]

/-- What is kept of a list is kept of every longer one, and behind it what has a new key. -/
theorem firstOfKeys_append (rs ts : List Record) :
    firstOfKeys (rs ++ ts) = firstOfKeys rs ++ firstOfKeys (ts.filter fun t => t.key ∉ rs.map Record.key) := by
  match rs with
  | [] =>
      have hall : (ts.filter fun t => t.key ∉ ([] : List Record).map Record.key) = ts := by simp
      rw [hall]
      rfl
  | r :: rest =>
      have hnew : ((ts.filter fun t => t.key ≠ r.key).filter fun t =>
          t.key ∉ (rest.filter fun t => t.key ≠ r.key).map Record.key) =
          ts.filter fun t => t.key ∉ (r :: rest).map Record.key := by
        rw [List.filter_filter]
        refine List.filter_congr fun t _ => ?_
        by_cases ht : t.key = r.key
        · simp [ht]
        · -- A key that is not that of the first record is sought among the records with other keys.
          have hkeys : t.key ∈ (rest.filter fun x => x.key ≠ r.key).map Record.key ↔
              t.key ∈ rest.map Record.key := by
            simp only [List.mem_map, List.mem_filter, decide_eq_true_eq]
            exact ⟨fun ⟨x, hx, hkey⟩ => ⟨x, hx.1, hkey⟩, fun ⟨x, hx, hkey⟩ => ⟨x, ⟨hx, hkey ▸ ht⟩, hkey⟩⟩
          simp only [hkeys, List.map_cons, List.mem_cons, ht, false_or, ne_eq, not_false_eq_true, decide_true,
            Bool.and_true]
      rw [List.cons_append, firstOfKeys_cons, firstOfKeys_cons, List.filter_append, firstOfKeys_append, hnew,
        List.cons_append]
termination_by rs.length
decreasing_by exact Nat.lt_succ_of_le (List.length_filter_le _ _)

/-- Nothing is left out exactly if no key repeats. -/
theorem length_firstOfKeys_eq_iff {rs : List Record} :
    (firstOfKeys rs).length = rs.length ↔ (rs.map Record.key).Nodup := by
  induction rs with
  | nil => simp [firstOfKeys]
  | cons r rest ih =>
      have hkept := List.length_filter_le (fun t : Record => decide (t.key ≠ r.key)) rest
      have hrest := length_firstOfKeys_le (rest.filter fun t => t.key ≠ r.key)
      rw [firstOfKeys_cons, List.length_cons, List.length_cons, List.map_cons, List.nodup_cons, ← ih]
      constructor
      · -- If all are kept, none of the rest has the key of the first.
        intro hlength
        have hall : (rest.filter fun t => t.key ≠ r.key) = rest := by
          rw [List.filter_eq_self, ← List.length_filter_eq_length_iff]
          omega
        rw [hall] at hlength
        refine ⟨?_, by omega⟩
        intro hr
        obtain ⟨t, ht, hkey⟩ := List.mem_map.mp hr
        simpa [hkey] using List.filter_eq_self.mp hall t ht
      · rintro ⟨hr, hlength⟩
        have hall : (rest.filter fun t => t.key ≠ r.key) = rest := by
          rw [List.filter_eq_self]
          intro t ht
          have hne : t.key ≠ r.key := fun hkey => hr (List.mem_map.mpr ⟨t, ht, hkey⟩)
          simpa using hne
        rw [hall, hlength]

/-- The first records of a list give the first of those of different keys exactly if each of them has a key of
its own, or if no key is missing among them. -/
theorem firstOfKeys_take_eq_iff (n : Nat) (rs : List Record) :
    firstOfKeys (rs.take n) = (firstOfKeys rs).take n ↔
      ((rs.take n).map Record.key).Nodup ∨ ∀ r ∈ rs, r.key ∈ (rs.take n).map Record.key := by
  have happend := firstOfKeys_append (rs.take n) (rs.drop n)
  rw [List.take_append_drop] at happend
  have hkept := length_firstOfKeys_le (rs.take n)
  have htake : (rs.take n).length = min n rs.length := List.length_take
  -- The two differ by what comes with a new key while there is place for it.
  have hdiffer : firstOfKeys (rs.take n) = (firstOfKeys rs).take n ↔
      n ≤ (firstOfKeys (rs.take n)).length ∨
        ∀ r ∈ rs.drop n, r.key ∈ (rs.take n).map Record.key := by
    have htaken : (firstOfKeys (rs.take n)).take n = firstOfKeys (rs.take n) :=
      List.take_of_length_le (by omega)
    rw [happend, List.take_append, htaken, List.self_eq_append_right, List.take_eq_nil_iff,
      firstOfKeys_eq_nil_iff, List.filter_eq_nil_iff, Nat.sub_eq_zero_iff_le]
    simp only [decide_eq_true_eq, not_not]
  have hrest : (∀ r ∈ rs, r.key ∈ (rs.take n).map Record.key) ↔
      ∀ r ∈ rs.drop n, r.key ∈ (rs.take n).map Record.key := by
    constructor
    · intro h r hr
      exact h r (List.mem_of_mem_drop hr)
    · intro h r hr
      rw [← List.take_append_drop n rs, List.mem_append] at hr
      rcases hr with hr | hr
      · exact List.mem_map_of_mem hr
      · exact h r hr
  rw [hdiffer, hrest, ← length_firstOfKeys_eq_iff]
  constructor
  · rintro (hfull | hnone)
    · left
      omega
    · exact .inr hnone
  · rintro (hlength | hnone)
    · by_cases hn : n ≤ rs.length
      · left
        omega
      · right
        rw [List.drop_eq_nil_of_le (by omega)]
        simp
    · exact .inr hnone

/-- Entities of one type are left out by their keys. -/
theorem eraseDupsBy_entities (e : Entity) (rs : List Record) :
    (rs.map (Result.entity e)).eraseDupsBy Result.sameInstance = (firstOfKeys rs).map (.entity e) := by
  match rs with
  | [] => rfl
  | r :: rest =>
      have hsame : ((rest.map (Result.entity e)).filter fun x =>
          decide (Result.sameInstance x (.entity e r) = false)) =
          (rest.filter fun t => t.key ≠ r.key).map (.entity e) := by
        rw [List.filter_map]
        refine congrArg _ (List.filter_congr fun t _ => ?_)
        by_cases ht : r.key = t.key
        · simp [Result.sameInstance, sameEntity, ht]
        · simp [Result.sameInstance, sameEntity, Ne.symm ht]
      rw [List.map_cons, List.eraseDupsBy_cons, hsame, eraseDupsBy_entities, firstOfKeys_cons, List.map_cons]
termination_by rs.length
decreasing_by exact Nat.lt_succ_of_le (List.length_filter_le _ _)

/-- Rows of entities come back as the first record of each key. -/
theorem hydrate_object_records (e : Entity) (rs : List Record) :
    hydrate .object [.entity e] (rs.map fun r => [.entity e (some r)]) =
      .ok (.list ((firstOfKeys rs).map (.entity e))) := by
  have hone := hydrate_object_one (.entity e) (rs.map fun r => .entity e (some r))
  rw [List.map_map, List.map_map] at hone
  rw [← eraseDupsBy_entities]
  exact hone

theorem hydrate_scalar_records (e : Entity) (rs : List Record) :
    hydrate .scalar [.entity e] (rs.map fun r => [.entity e (some r)]) = .ok (.list (rs.map (.entity e))) := by
  have hone := hydrate_scalar_one (.entity e) (rs.map fun r => .entity e (some r))
  rw [List.map_map, List.map_map] at hone
  exact hone

/-! ## Trees in the order of keys -/

namespace Spec

/-- A tree in the order of the keys of its root. -/
def byId (s : Spec) : Spec := .conj [s, .orderBy none "id" .ascending]

/-- A tree in the order of the keys of its root, with a limit. -/
def firstById (s : Spec) (n : Nat) : Spec := .conj [s, .orderBy none "id" .ascending, .limit (.int n)]

/-- The records that the accepted joined rows start from, one for each row. -/
def rowRoots (s : Spec) (db : Database) (sc : Scope) (root : Entity) (under : String) : List Record :=
  (db.records root).flatMap fun r =>
    ((joinedRows db sc.joins [(.table root, some r)]).filter fun row =>
      s.accepts (Relationship.asked db row) sc.names row under).map fun _ => r

variable {s : Spec}

theorem isRetrieval_byId (hs : s.isRetrieval = true) : s.byId.isRetrieval = true := by
  simp [byId, isRetrieval, areRetrievals, hs]

theorem scope_byId (under : String) (sc : Scope) : s.byId.scope under sc = s.scope under sc := by
  simp [byId, scope, scopeAll]

/-- An order behind a tree does not change which rows the tree accepts. -/
theorem accepts_byId (present : Source → Relationship → Truth) (names : List (String × Source)) (row : Row)
    (under : String) : s.byId.accepts present names row under = s.accepts present names row under := by
  simp only [accepts, byId, truth?, truths]
  cases s.truth? present names row under with
  | none => rfl
  | some t => simp [together]

/-- A limit changes the limit of the statement and nothing else. -/
theorem apply_firstById (n : Nat) (under : String) (b : Builder) :
    (runFrom b ((s.firstById n).apply under)).1 = (runFrom b (s.byId.apply under)).1 ∧
      ∀ b', runFrom b (s.byId.apply under) = (.ok (), b') →
        runFrom b ((s.firstById n).apply under) =
          (.ok (), b'.changed fun st => st.paged (some (n : Int)) st.offset) := by
  have hchanges : (s.firstById n).changes under = s.byId.changes under ++ [.limit (.int n)] := by
    simp [firstById, byId, changes, changesAll]
  have hclause : ∀ b, (s.firstById n).clause? b under = s.byId.clause? b under := by
    intro b
    simp only [firstById, byId, clause?, clauses]
    cases s.clause? b under <;> rfl
  exact apply_appended hchanges hclause (fun _ => rfl) (fun st d => by cases d <;> rfl) b

end Spec

namespace Repository

variable {repo : Repository} {db : Database} {s : Spec}

/-- Whether a limited tree finds the first of the entities that the tree finds without a limit. -/
def LimitsEntities (repo : Repository) (db : Database) (s : Spec) (n : Nat) : Prop :=
  ∀ found, repo.matched db (.spec s.byId) = .ok (.list found) →
    repo.matched db (.spec (s.firstById n)) = .ok (.list (found.take n))

/-- A limited tree finds the first rows that the tree finds. -/
theorem matched_firstById {b : Builder} (hsession : repo.hasSession = true) (hs : s.isRetrieval = true)
    (hb : repo.builder (.spec s.byId) none = (.ok (), b)) (n : Nat) :
    repo.matched db (.spec (s.firstById n)) =
      (b.statement.run db).bind fun rows =>
        if Cell.hasRoom n then hydrate .object b.statement.items (rows.take n) else .error .integerTooLarge := by
  have hretrieves := Spec.retrieves_of_apply (Spec.isRetrieval_byId hs) hb
  have hlimit : b.statement.limit = none := congrArg Statement.limit hretrieves.shape
  have hoffset : b.statement.offset = none := congrArg Statement.offset hretrieves.shape
  obtain ⟨-, hlimited⟩ := Spec.apply_firstById n repo.rootAlias (Builder.ofEntity repo.entity repo.rootAlias)
  have hb' : repo.builder (.spec (s.firstById n)) none = _ := hlimited b hb
  have hrooms : (pageCounts (some (n : Int)) none).all Cell.hasRoom = Cell.hasRoom n := by
    have hzero : Cell.hasRoom 0 = true := by decide
    simp [pageCounts, hzero]
  rw [matched_of_builder hsession hb', Builder.changed_statement, hoffset,
    Statement.run_paged hlimit hoffset, hrooms]
  cases b.statement.run db with
  | error f => simp only [Except.bind]
  | ok rows =>
      rw [Except.bind, page_take]
      generalize Cell.hasRoom n = room
      cases room <;> rfl

/-- A limited tree is refused for what the tree is refused for. -/
theorem matched_firstById_of_error {f : Fault} (hs : s.isRetrieval = true)
    (h : repo.matched db (.spec s.byId) = .error f) (n : Nat) :
    repo.matched db (.spec (s.firstById n)) = .error f := by
  cases hsession : repo.hasSession with
  | false =>
      rw [matched, find_outcome, hsession] at h ⊢
      exact h
  | true =>
      rcases hb : repo.builder (.spec s.byId) none with ⟨g | u, b⟩
      · obtain ⟨hsame, -⟩ := Spec.apply_firstById (s := s) n repo.rootAlias
          (Builder.ofEntity repo.entity repo.rootAlias)
        have hfault : (repo.builder (.spec (s.firstById n)) none).1 = .error g :=
          hsame.trans (congrArg Prod.fst hb)
        rw [matched, find_of_builder_error .all none hsession hb] at h
        rw [matched, find_of_builder_error .all none hsession (Prod.ext hfault rfl)]
        exact h
      · rw [matched_of_builder hsession hb] at h
        rw [matched_firstById hsession hs hb]
        -- Once rows are found nothing fails, as entities come as a list.
        rcases bind_eq_error.mp h with hrun | ⟨rows, -, hrows⟩
        · rw [hrun]
          rfl
        · obtain ⟨xs, hxs⟩ := exists_hydrate_eq_list (by decide : Hydration.object ≠ .singleScalar)
            b.statement.items rows
          rw [hxs] at hrows
          cases hrows

/-- What a tree finds in the order of keys are the records at the root of the rows that it accepts. -/
theorem exists_rows_of_matched {found : Result} (hs : s.isRetrieval = true)
    (h : repo.matched db (.spec s.byId) = .ok found) :
    repo.hasSession = true ∧ ∃ (b : Builder) (rs : List Record), repo.builder (.spec s.byId) none = (.ok (), b) ∧
      b.statement.items = [.entity repo.entity] ∧
      b.statement.run db = .ok (rs.map fun r => [.entity repo.entity (some r)]) ∧
      s.scope repo.rootAlias (.ofRoot repo.rootAlias repo.entity) = some b.scope ∧
      rs.Perm (s.rowRoots db b.scope repo.entity repo.rootAlias) := by
  obtain ⟨hsession, b, hb⟩ := builder_of_find h
  have hbyId := Spec.isRetrieval_byId hs
  have happly : runFrom (Builder.ofEntity repo.entity repo.rootAlias) (s.byId.apply repo.rootAlias) =
      (.ok (), b) := hb
  have hretrieves := Spec.retrieves_of_apply hbyId happly
  obtain ⟨rs, hresults, hperm⟩ := hretrieves.exists_perm_records db
  rw [matched_of_builder hsession hb] at h
  obtain ⟨rows, hrun, -⟩ := bind_eq_ok.mp h
  obtain ⟨-, rfl⟩ := Statement.run_eq_ok.mp hrun
  refine ⟨hsession, b, rs, hb, hretrieves.items_eq, ?_, ?_, ?_⟩
  · rw [hrun, hresults]
  · rw [← Spec.scope_byId]
    exact Spec.scope_of_apply happly
  · simp only [Spec.holds_of_apply hbyId happly, Spec.accepts_byId] at hperm
    exact hperm

/-- **A limit takes rows.** Where a tree of filters, joins and orders cannot be found in the order of keys, it
cannot with a limit, for the same reason. Otherwise it finds the entities of the rows that it accepts, each
once, and with a limit for which there is room the entities of the first of these rows: a prefix, no longer than
the limit. They are the first of all entities exactly if each of these rows is of another entity, or if
no entity is missing among them. -/
theorem limit_takes_rows (repo : Repository) (db : Database) (s : Spec) (hs : s.isRetrieval = true) :
    (∀ f, repo.matched db (.spec s.byId) = .error f →
      ∀ n : Nat, repo.matched db (.spec (s.firstById n)) = .error f) ∧
    ∀ found, repo.matched db (.spec s.byId) = .ok found →
      ∃ sc rs, s.scope repo.rootAlias (.ofRoot repo.rootAlias repo.entity) = some sc ∧
        rs.Perm (s.rowRoots db sc repo.entity repo.rootAlias) ∧
        repo.outcome .all (.spec s.byId) (some .asScalar) { database := db } =
          .ok (.list (rs.map (.entity repo.entity))) ∧
        found = .list ((firstOfKeys rs).map (.entity repo.entity)) ∧
        ∀ n : Nat,
          (Cell.hasRoom n = false → repo.matched db (.spec (s.firstById n)) = .error .integerTooLarge) ∧
          (Cell.hasRoom n = true → repo.matched db (.spec (s.firstById n)) =
            .ok (.list ((firstOfKeys (rs.take n)).map (.entity repo.entity)))) ∧
          firstOfKeys (rs.take n) <+: firstOfKeys rs ∧ (firstOfKeys (rs.take n)).length ≤ n ∧
          (firstOfKeys (rs.take n) = (firstOfKeys rs).take n ↔
            ((rs.take n).map Record.key).Nodup ∨ ∀ r ∈ rs, r.key ∈ (rs.take n).map Record.key) := by
  refine ⟨fun f hf n => matched_firstById_of_error hs hf n, ?_⟩
  intro found hfound
  obtain ⟨hsession, b, rs, hb, hitems, hrun, hscope, hperm⟩ := exists_rows_of_matched hs hfound
  refine ⟨b.scope, rs, hscope, hperm, ?_, ?_, fun n => ⟨?_, ?_, ?_, ?_, firstOfKeys_take_eq_iff n rs⟩⟩
  · -- As scalars, all rows are listed.
    have hscalars : repo.outcome .all (.spec s.byId) (some .asScalar) { database := db } = _ :=
      find_fresh .scalar db hsession hb
    rw [hscalars, hrun, hitems]
    exact hydrate_scalar_records repo.entity rs
  · -- As entities, each is listed once.
    rw [matched_of_builder hsession hb, hrun, hitems] at hfound
    have hobjects := hydrate_object_records repo.entity rs
    rw [Except.bind, hobjects] at hfound
    exact (Except.ok.inj hfound).symm
  · intro hroom
    rw [matched_firstById hsession hs hb, hrun, Except.bind, hroom]
    rfl
  · intro hroom
    rw [matched_firstById hsession hs hb, hrun, hitems, Except.bind, hroom, ← List.map_take]
    exact hydrate_object_records repo.entity (rs.take n)
  · -- The records of the first rows stay in front when the others are added.
    have happend := firstOfKeys_append (rs.take n) (rs.drop n)
    rw [List.take_append_drop] at happend
    rw [happend]
    exact List.prefix_append _ _
  · exact Nat.le_trans (length_firstOfKeys_le _) (List.length_take_le _ _)

/-- Three rows join users with their posts, and a limit of two takes two of them. -/
theorem users_of_two_rows :
    ∃ rs : List Record, rs.length = 3 ∧
      ({ entity := .user } : Repository).matched .sample
        (.spec (Spec.firstById (.join .join none "posts" "p") 2)) =
          .ok (.list ((firstOfKeys (rs.take 2)).map (.entity .user))) := by
  have hb : ({ entity := .user } : Repository).builder
      (.spec (Spec.byId (.join .join none "posts" "p"))) none = (.ok (), _) := rfl
  have hretrieves := @Spec.retrieves_of_apply .user _ _ _ rfl hb
  have hall : ({ entity := .user } : Repository).matched .sample _ = _ := matched_of_builder rfl hb
  rw [hretrieves.run_of_distinctNames .sample ⟨[], rfl⟩ (by decide +kernel)] at hall
  obtain ⟨-, hlimited⟩ := limit_takes_rows { entity := .user } .sample (.join .join none "posts" "p") rfl
  obtain ⟨sc, rs, hscope, hperm, -, -, htaken⟩ := hlimited _ hall
  cases hscope
  obtain ⟨-, htwo, -⟩ := htaken 2
  exact ⟨rs, hperm.length_eq.trans (by decide +kernel), htwo (by decide)⟩

/-- How many results an outcome lists. -/
def listed : Except Fault Result → Nat
  | .ok (.list found) => found.length
  | _ => 0

/-- Alice has written the first two posts, so that the first two users with posts are not found by a limit of
two: it takes two rows, and both are hers. -/
theorem posts_limited_by_rows :
    ¬ LimitsEntities { entity := .user } .sample (.join .join none "posts" "p") 2 := by
  intro hlimits
  have hb : ({ entity := .user } : Repository).builder
      (.spec (Spec.byId (.join .join none "posts" "p"))) none = (.ok (), _) := rfl
  have hretrieves := @Spec.retrieves_of_apply .user _ _ _ rfl hb
  have hrun := hretrieves.run_of_distinctNames .sample ⟨[], rfl⟩ (by decide +kernel)
  rw [hretrieves.results_of_sorted (by decide +kernel)] at hrun
  have hall : ({ entity := .user } : Repository).matched .sample _ = _ := matched_of_builder rfl hb
  rw [hrun] at hall
  have hlimited := hlimits _ hall
  rw [matched_firstById rfl rfl hb 2, hrun] at hlimited
  -- One user is found with the limit, and two are without it.
  have hcount := congrArg listed hlimited
  revert hcount
  decide +kernel

end Repository
end Criteria
