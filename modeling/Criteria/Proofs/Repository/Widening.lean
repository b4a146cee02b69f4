import Criteria.Proofs.Calendar.Rounding
import Criteria.Proofs.Query.Holding
import Criteria.Proofs.Repository.Agreement
import Criteria.Proofs.Repository.Matching
import Criteria.Proofs.Repository.Rounding
import Criteria.Proofs.Spec.Monotone

/-!
# Rounded bounds

Rounding moves a moment to an earlier one. Where all moments of a tree without negation are lower bounds, rounding
the query loses none of the entities that the exact one finds, and where all are upper bounds, it finds none that
the exact one does not (`rounding_widens`). Neither the database nor what the sessions hold plays a part in this.
-/

namespace Criteria

/-! ## What a retrieval finds -/

/-- Whether a statement finds a record of its root: some joined row of it passes the conditions. -/
def Statement.Finds (s : Statement) (db : Database) (root : Entity) (r : Record) : Prop :=
  r ∈ db.records root ∧ ∃ row ∈ joinedRows db s.joins [(.table root, some r)],
    (Clause.truthAll db [row] row s.conditions).holds = true

/-- A retrieval runs exactly if its values can be bound and the names of its sources are distinct. -/
theorem Statement.Retrieves.check_iff {root : Entity} {s : Statement} (h : s.Retrieves root) :
    s.check = .ok () ↔ s.BindsAll ∧ DistinctNames (.table root :: s.joins.map (·.target)) := by
  constructor
  · intro hcheck
    obtain ⟨hvalues, -, -⟩ := (check_eq_ok h.groupConditions_eq).mp hcheck
    refine ⟨hvalues, ?_⟩
    by_contra hnames
    obtain ⟨c, hc⟩ := h.run_of_clash ⟨[], []⟩ hvalues hnames
    rw [run_eq_error, hcheck] at hc
    cases hc
  · rintro ⟨hvalues, hnames⟩
    exact (run_eq_ok.mp (h.run_of_distinctNames ⟨[], []⟩ hvalues hnames)).1

/-- The record by which a session shows an entity. -/
def Session.shownFor (s : Session) (e : Entity) (r : Record) : Record := (lastSeen? s.held e r).getD r

theorem Session.key_shownFor (s : Session) (e : Entity) (r : Record) : (s.shownFor e r).key = r.key := by
  unfold shownFor
  cases h : lastSeen? s.held e r with
  | none => rfl
  | some t => exact (mem_of_lastSeen? h).2

/-- The records found are those that a statement finds, as a session shows them, one of each key. -/
structure Statement.FoundIn (s : Statement) (x : Session) (root : Entity) (found : List Record) :
    Prop where
  sound : ∀ t ∈ found, ∃ r, s.Finds x.database root r ∧ x.shownFor root r = t
  complete : ∀ r, s.Finds x.database root r → ∃ t ∈ found, t.key = r.key

namespace Repository

variable {repo : Repository} {x y : Session}

/-- What a retrieval gives in a session, if it runs. -/
theorem outcome_of_retrieves {spec : Operand} {b : Builder} (hsession : repo.hasSession = true)
    (hb : repo.builder spec none = (.ok (), b)) (h : b.statement.Retrieves repo.entity)
    (hcheck : b.statement.check = .ok ()) :
    ∃ found : List Record, repo.outcome .all spec none x = .ok (.list (found.map (.entity repo.entity))) ∧
      b.statement.FoundIn x repo.entity found := by
  obtain ⟨rs, hresults, hrs⟩ := h.exists_records x.database
  obtain ⟨found, hhydrate, -, hsound, hcomplete⟩ :=
    hydrate_entities repo.entity (rs.map (x.shownFor repo.entity))
  refine ⟨found, ?_, ?_, ?_⟩
  · -- The rows hydrate to entities, one of each key.
    have hrows : (b.statement.results x.database).map (fun row => row.map (Session.shown x.held)) =
        (rs.map (x.shownFor repo.entity)).map fun r => [.entity repo.entity (some r)] := by
      rw [hresults, List.map_map, List.map_map]
      rfl
    have hrun : b.statement.run x.database = .ok (b.statement.results x.database) :=
      Statement.run_eq_ok.mpr ⟨hcheck, rfl⟩
    have hfind := find_of_builder .object hsession hb x
    rw [hrun] at hfind
    simp only [Except.bind, hrows, h.items_eq, hhydrate] at hfind
    exact hfind
  · -- What is found is the entity of some row.
    intro t ht
    obtain ⟨r, hr, rfl⟩ := List.mem_map.mp (hsound t ht)
    exact ⟨r, (hrs r).mp hr, rfl⟩
  · -- The entity of a row is found, or another of its key.
    intro r hr
    obtain ⟨t, ht, hkey⟩ := hcomplete _ (List.mem_map_of_mem ((hrs r).mpr hr))
    exact ⟨t, ht, hkey.trans (x.key_shownFor repo.entity r)⟩

/-- Something is found only by a statement that the store accepts. -/
theorem check_of_outcome {spec : Operand} {b : Builder} {res : Result}
    (hb : repo.builder spec none = (.ok (), b)) (h : repo.outcome .all spec none x = .ok res) :
    repo.hasSession = true ∧ b.statement.check = .ok () := by
  obtain ⟨hsession, -⟩ := builder_of_find h
  refine ⟨hsession, ?_⟩
  have hfind := find_of_builder .object hsession hb x
  rw [formOf] at hfind
  rw [outcome, hfind] at h
  obtain ⟨rows, hrun, -⟩ := bind_eq_ok.mp h
  exact (Statement.run_eq_ok.mp hrun).1

/-! ## Inclusion -/

/-- Whether what one session finds is among what another finds. Entities are known by their keys. In sessions that
hold the same, of a database in which no key is used twice, they are shown by the same records. -/
structure Among (root : Entity) (x y : Session) (found wider : List Record) : Prop where
  keys : ∀ r ∈ found, ∃ t ∈ wider, t.key = r.key
  records : x.held = y.held → ((x.database.records root).map Record.key).Nodup → ∀ r ∈ found, r ∈ wider

theorem among_of_finds {s t : Statement} {root : Entity} {found wider : List Record}
    (hdatabase : x.database = y.database) (hs : s.FoundIn x root found) (ht : t.FoundIn y root wider)
    (h : ∀ r, s.Finds x.database root r → t.Finds x.database root r) : Among root x y found wider where
  keys := by
    intro u hu
    obtain ⟨r, hr, rfl⟩ := hs.sound u hu
    rw [x.key_shownFor]
    exact ht.complete r (hdatabase ▸ h r hr)
  records := by
    intro hheld hkeys u hu
    obtain ⟨r, hr, rfl⟩ := hs.sound u hu
    obtain ⟨v, hv, hkey⟩ := ht.complete r (hdatabase ▸ h r hr)
    obtain ⟨r', hr', rfl⟩ := ht.sound v hv
    rw [y.key_shownFor] at hkey
    -- No other record has the key.
    have hmem : r' ∈ x.database.records root := by
      rw [hdatabase]
      exact hr'.1
    have hsame := List.inj_on_of_nodup_map hkeys hmem hr.1 hkey
    rw [hsame] at hv
    simpa only [Session.shownFor, hheld] using hv

/-- A tree without negation whose comparisons say more finds no fewer entities. -/
theorem outcome_onMoments_among {P : Relation → DateTime → Prop} {g g' : DateTime → DateTime} {s : Spec}
    {res : Result} (hcompare : ComparisonsImply P g g') (hs : s.isPositive = true)
    (heach : s.EachCompared P) (hdatabase : x.database = y.database)
    (hfound : repo.outcome .all (.spec (s.onMoments g id)) none x = .ok res) :
    ∃ found wider : List Record, res = .list (found.map (.entity repo.entity)) ∧
      repo.outcome .all (.spec (s.onMoments g' id)) none y = .ok (.list (wider.map (.entity repo.entity))) ∧
      Among repo.entity x y found wider := by
  have hretrieval := fun g => (Spec.isRetrieval_onMoments g id s).trans (Spec.isRetrieval_of_isPositive hs)
  have hbuilder := fun g => repo.builder_onMoments g id s none
  rcases hb : repo.builder (.spec s) none with ⟨f | u, b⟩
  · obtain ⟨-, b', hb'⟩ := builder_of_find hfound
    rw [hbuilder, hb] at hb'
    cases hb'
  · simp only [hb] at hbuilder
    have happly : ∀ g, runFrom (Builder.ofEntity repo.entity repo.rootAlias)
        ((s.onMoments g id).apply repo.rootAlias) = (.ok (), b.onMoments g id) := hbuilder
    have hretrieves := fun g => Spec.retrieves_of_apply (hretrieval g) (happly g)
    have hholds := fun g => @Spec.holds_of_apply _ _ _ _ (hretrieval g) (happly g) x.database
    obtain ⟨hsession, hcheck⟩ := check_of_outcome (hbuilder g) hfound
    -- Neither the values that are bound nor the names of sources depend on the moments.
    have hcheck' : (b.onMoments g' id).statement.check = .ok () := by
      obtain ⟨hvalues, hnames⟩ := (hretrieves g).check_iff.mp hcheck
      refine (hretrieves g').check_iff.mpr ⟨?_, hnames⟩
      exact (Statement.bindsAll_onMoments g' id b.statement).mpr
        ((Statement.bindsAll_onMoments g id b.statement).mp hvalues)
    obtain ⟨found, houtcome, hin⟩ := outcome_of_retrieves (x := x) hsession (hbuilder g) (hretrieves g) hcheck
    obtain ⟨wider, hwider, hwiderIn⟩ :=
      outcome_of_retrieves (x := y) hsession (hbuilder g') (hretrieves g') hcheck'
    refine ⟨found, wider, Except.ok.inj (hfound.symm.trans houtcome), hwider, ?_⟩
    refine among_of_finds hdatabase hin hwiderIn ?_
    rintro r ⟨hr, row, hrow, hrowHolds⟩
    refine ⟨hr, row, hrow, ?_⟩
    rw [hholds] at hrowHolds ⊢
    exact Spec.accepts_of_implies hcompare hs heach hrowHolds

/-! ## Rounding -/

/-- Rounding by seconds never moves a moment forward. -/
theorem rounded_le {n : Int} (hn : 0 < n) (t : DateTime) : (rounded (.int n) t).micros ≤ t.micros := by
  cases h : roundMoment (.int n) t with
  | error f => simp only [rounded, h, Int.le_refl]
  | ok r =>
      obtain ⟨-, hstart⟩ := (roundMoment_eq_ok hn).mp h
      have happart := DateTime.instant_sub_instant hstart.offset
      have hle := hstart.le
      rw [roundMoment_eq_rounded h]
      omega

/-- Results depend on the query that is built. -/
theorem outcome_congr {spec spec' : Operand} {m m' : Option Modifier}
    (h : (repo.query spec m).1 = (repo.query spec' m').1) (f : Fetch) (x : Session) :
    repo.outcome f spec m x = repo.outcome f spec' m' x := by
  simp only [outcome, find_outcome, h]

/-- **Rounding a lower bound widens the result.** In a tree of filters and joins without negation, let all
moments that are compared with be lower bounds. Whatever the exact query finds, the rounded one finds, if the
moments can be rounded. Where all of them are upper bounds instead, the exact query finds what the rounded
one does. -/
theorem rounding_widens {n : Int} (hn : 0 < n) {s : Spec} (hs : s.isPositive = true)
    (hdatabase : x.database = y.database) :
    (s.EachCompared (fun r _ => r.isLower = true) →
      (∀ q, (repo.query (.spec s) none).1 = .ok q →
        ∀ t ∈ q.statement.moments, ∃ r, roundMoment (.int n) t = .ok r) →
      ∀ res, repo.outcome .all (.spec s) none x = .ok res →
        ∃ exact wider : List Record, res = .list (exact.map (.entity repo.entity)) ∧
          repo.outcome .all (.spec s) (some (.round (.int n))) y =
            .ok (.list (wider.map (.entity repo.entity))) ∧
          Among repo.entity x y exact wider) ∧
    (s.EachCompared (fun r _ => r.isUpper = true) →
      ∀ res, repo.outcome .all (.spec s) (some (.round (.int n))) x = .ok res →
        ∃ narrower exact : List Record, res = .list (narrower.map (.entity repo.entity)) ∧
          repo.outcome .all (.spec s) none y = .ok (.list (exact.map (.entity repo.entity))) ∧
          Among repo.entity x y narrower exact) := by
  constructor
  · -- Lower bounds: the tree as it is finds less than the tree rounded down.
    intro heach hround res hres
    have hexact : repo.outcome .all (.spec (s.onMoments id id)) none x = .ok res := by
      rw [Spec.onMoments_id]
      exact hres
    obtain ⟨exact, wider, hlist, hwider, hamong⟩ := outcome_onMoments_among
      (comparisonsImply_earlier (g := id) (rounded_le hn)) hs heach hdatabase hexact
    refine ⟨exact, wider, hlist, ?_, hamong⟩
    obtain ⟨-, b, hb⟩ := builder_of_find hres
    have hq := query_of_builder .object hb
    rw [outcome_congr (query_round_eq hq (hround _ hq))]
    exact hwider
  · -- Upper bounds: the tree rounded down finds less.
    intro heach res hres
    have hrounded : repo.outcome .all (.spec (s.onMoments (rounded (.int n)) id)) none x = .ok res := by
      obtain ⟨hsession, -⟩ := builder_of_find hres
      have hbuilt := hres
      rw [outcome, find_outcome, hsession, if_pos rfl] at hbuilt
      obtain ⟨q', hq', -⟩ := bind_eq_ok.mp hbuilt
      rw [outcome_congr ((query_of_round hq').trans hq'.symm)]
      exact hres
    obtain ⟨narrower, exact, hlist, hexact, hamong⟩ := outcome_onMoments_among
      (comparisonsImply_later (k := id) (rounded_le hn)) hs heach hdatabase hrounded
    rw [Spec.onMoments_id] at hexact
    exact ⟨narrower, exact, hlist, hexact, hamong⟩

/-- What is found can be evaluated. -/
theorem exists_of_isOk {a : Except Fault Result} (h : a.isOk = true) : ∃ res, a = .ok res := by
  cases a with
  | error f => cases h
  | ok res => exact ⟨res, rfl⟩

/-- Users since a quarter past ten are among those since ten, and users before ten are among those before a
quarter past ten. -/
theorem users_around_ten :
    let t : DateTime := ⟨1714558500000000, none, by decide, by decide⟩
    let users (r : Relation) (m : Option Modifier) : Except Fault Result :=
      ({ entity := .user } : Repository).outcome .all
        (.spec (.filter none "created_at" (.compare true r (.dateTime t)))) m { database := .sample }
    let hour : Option Modifier := some (.round (.int 3600))
    (∃ exact wider : List Record, users .ge none = .ok (.list (exact.map (.entity .user))) ∧
      users .ge hour = .ok (.list (wider.map (.entity .user))) ∧ ∀ r ∈ exact, r ∈ wider) ∧
    ∃ narrower exact : List Record, users .lt hour = .ok (.list (narrower.map (.entity .user))) ∧
      users .lt none = .ok (.list (exact.map (.entity .user))) ∧ ∀ r ∈ narrower, r ∈ exact := by
  intro t users hour
  have hkeys : ((Database.sample.records .user).map Record.key).Nodup := by decide +kernel
  constructor
  · obtain ⟨hlower, -⟩ := @rounding_widens { entity := .user } { database := .sample }
      { database := .sample } 3600 (by decide)
      (.filter none "created_at" (.compare true .ge (.dateTime t))) rfl rfl
    have hround : ∀ u ∈ [t], ∃ r, roundMoment (.int 3600) u = .ok r := by
      intro u hu
      obtain rfl := List.mem_singleton.mp hu
      exact ⟨_, rfl⟩
    obtain ⟨res, hres⟩ := exists_of_isOk (a := users .ge none) (by decide +kernel)
    obtain ⟨exact, wider, rfl, hwider, hamong⟩ := hlower (fun _ _ => rfl) (fun q hq => by
      cases hq
      exact hround) res hres
    exact ⟨exact, wider, hres, hwider, hamong.records rfl hkeys⟩
  · obtain ⟨-, hupper⟩ := @rounding_widens { entity := .user } { database := .sample }
      { database := .sample } 3600 (by decide)
      (.filter none "created_at" (.compare true .lt (.dateTime t))) rfl rfl
    obtain ⟨res, hres⟩ := exists_of_isOk (a := users .lt hour) (by decide +kernel)
    obtain ⟨narrower, exact, rfl, hexact, hamong⟩ := hupper (fun _ _ => rfl) res hres
    exact ⟨narrower, exact, hres, hexact, hamong.records rfl hkeys⟩

end Repository
end Criteria
