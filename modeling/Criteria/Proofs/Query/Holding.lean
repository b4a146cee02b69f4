import Criteria.Proofs.Query.Fetching

/-!
# What a session holds

A run in a session leaves the database alone. What the session holds after it is decided by the rows that were
loaded, if they were to be loaded anew, and by the results that came of them (`find_session`). Loading anew
changes the records of what is held and not what is held (`mem_refresh`, `holds_refresh`), and results add what
is not held yet (`mem_foldl_holdOne`, `holds_foldl_holdOne`).
-/

namespace Criteria

/-! ## Queries -/

namespace Query

/-- What a session holds once a query has loaded its rows. -/
def refreshed (q : Query) (s : Session) : List (Entity × Record) :=
  match q.loaded s with
  | .ok rows => if q.hasOption "populate_existing" then Session.refresh s.held rows else s.held
  | .error _ => s.held

/-- Loading may refresh what is held, and leaves the database alone. -/
theorem load_session (q : Query) (s : Session) :
    ∃ trace, (runFrom s q.load).2 = { database := s.database, held := q.refreshed s, trace } := by
  unfold load refreshed loaded
  cases q.inSession with
  | false => exact ⟨s.trace, rfl⟩
  | true =>
      cases q.logSql <;>
        simp only [runFrom_bind, runFrom_get, Session.run_report, Bool.not_true,
          Bool.false_eq_true, if_false, if_true]
      all_goals
        cases q.statement.run s.database with
        | error f => exact ⟨_, rfl⟩
        | ok rows =>
            simp only [Except.bind]
            cases q.hasOption "stream_results" || q.hasOption "yield_per" with
            | true => exact ⟨_, rfl⟩
            | false => cases q.hasOption "populate_existing" <;> exact ⟨_, rfl⟩

theorem fetch_session (q : Query) (f : Fetch) (s : Session) :
    ∃ trace, (runFrom s (q.fetch f)).2 =
      { database := s.database
        held :=
          match (runFrom s (q.fetch f)).1 with
          | .ok r => Session.hold (q.refreshed s) r
          | .error _ => q.refreshed s
        trace } := by
  obtain ⟨trace, hload⟩ := q.load_session s
  refine ⟨trace, ?_⟩
  unfold fetch
  rw [runFrom_bind]
  rcases hrun : runFrom s q.load with ⟨fault | rows, t⟩
  · rw [hrun] at hload
    exact hload
  · rw [hrun] at hload
    obtain rfl : t = _ := hload
    simp only
    cases f.select q.mode (hydrate q.mode q.statement.items rows) <;> rfl

end Query

/-! ## Repositories -/

namespace Repository

/-- What a session holds once a repository has loaded the rows for a specification. -/
def refreshed (repo : Repository) (spec : Operand) (m : Option Modifier) (s : Session) :
    List (Entity × Record) :=
  if repo.hasSession then
    match (repo.query spec m).1 with
    | .ok q => q.refreshed s
    | .error _ => s.held
  else s.held

/-- Finding leaves the database alone, and the entities of its results are held from then on. -/
theorem find_session (repo : Repository) (f : Fetch) (spec : Operand) (m : Option Modifier) (s : Session) :
    ∃ trace, (runFrom s (repo.find f spec m)).2 =
      { database := s.database
        held :=
          match (runFrom s (repo.find f spec m)).1 with
          | .ok r => Session.hold (repo.refreshed spec m s) r
          | .error _ => repo.refreshed spec m s
        trace } := by
  unfold find runQuery refreshed
  cases repo.hasSession with
  | false => exact ⟨s.trace, rfl⟩
  | true =>
      rcases repo.query spec m with ⟨fault | q, journal⟩
      · simp only [Bool.not_true, Bool.false_eq_true, if_false, if_true]
        rw [runFrom_bind_ok (Session.run_reportAll s journal.trace)]
        exact ⟨_, rfl⟩
      · simp only [Bool.not_true, Bool.false_eq_true, if_false, if_true]
        rw [runFrom_bind_ok (Session.run_reportAll s journal.trace)]
        -- Reporting what is looked for does not matter for what is held.
        split
        · rw [runFrom_bind_ok (Session.run_report _ _)]
          exact q.fetch_session f _
        · rw [runFrom_bind_ok (runFrom_pure _ ())]
          exact q.fetch_session f _

/-- What is found depends on the database and on what is held. -/
theorem find_congr (repo : Repository) (f : Fetch) (spec : Operand) (m : Option Modifier) {s t : Session}
    (hdatabase : t.database = s.database) (hheld : t.held = s.held) :
    (runFrom t (repo.find f spec m)).1 = (runFrom s (repo.find f spec m)).1 := by
  have hloaded : ∀ q : Query, q.loaded t = q.loaded s := by
    intro q
    unfold Query.loaded
    rw [hdatabase, hheld]
  simp only [find_outcome, hloaded]

/-! ## Maps -/

/-- Maps of columns hold no entities. -/
theorem entities_of_hydrate_array {items : List SelectItem} {rows : List (List Element)} {r : Result}
    (h : hydrate .array items rows = .ok r) : r.entities = [] := by
  have hvalues : ∀ vs : List Value, Result.entitiesOf (vs.map .value) = [] := by
    intro vs
    induction vs with
    | nil => rfl
    | cons v rest ih => exact ih
  cases h
  have hmap : (rows.map fun row => Result.value (rowMap (rowKeys items) row)) =
      (rows.map (rowMap (rowKeys items))).map .value := by simp
  rw [hmap]
  exact hvalues _

/-- A query that only asks for a form has no options. -/
theorem options_of_formOf {repo : Repository} {spec : Operand} {mode : Hydration} {q : Query}
    (h : (repo.query spec (formOf mode)).1 = .ok q) : q.options = [] := by
  rcases hb : repo.builder spec none with ⟨f | u, b⟩
  · rw [query_of_builder_error _ hb] at h
    cases h
  · rw [query_of_builder mode hb] at h
    cases h
    rfl

/-- Finding maps of columns leaves the database and what is held alone. -/
theorem find_array_session (repo : Repository) (spec : Operand) (s : Session) :
    (runFrom s (repo.find .all spec (some .asArray))).2.database = s.database ∧
      (runFrom s (repo.find .all spec (some .asArray))).2.held = s.held := by
  obtain ⟨trace, hafter⟩ := find_session repo .all spec (some .asArray) s
  rw [hafter]
  refine ⟨rfl, ?_⟩
  -- Nothing is loaded anew, as this form of results sets no option.
  have hrefreshed : repo.refreshed spec (some .asArray) s = s.held := by
    unfold refreshed
    split
    · cases hq : (repo.query spec (some .asArray)).1 with
      | error f => rfl
      | ok q =>
          have hstale : q.hasOption "populate_existing" = false := by
            rw [Query.hasOption, @options_of_formOf repo spec .array q hq]
            rfl
          simp only [Query.refreshed, hstale]
          cases q.loaded s <;> rfl
    · rfl
  -- Nothing new is held, as maps hold no entities.
  rw [hrefreshed]
  cases hfound : (runFrom s (repo.find .all spec (some .asArray))).1 with
  | error f => rfl
  | ok r =>
      obtain ⟨hsession, b, hb⟩ := builder_of_find hfound
      rw [← formOf, find_of_builder .array hsession hb] at hfound
      obtain ⟨rows, -, hr⟩ := bind_eq_ok.mp hfound
      show Session.hold s.held r = s.held
      rw [Session.hold, entities_of_hydrate_array hr]
      rfl

end Repository

/-! ## Entities in rows -/

/-- The entity that an element is, if it is one. -/
def Element.entity? : Element → Option (Entity × Record)
  | .entity e (some r) => some (e, r)
  | _ => none

/-- The entities in some rows, in order. -/
def entitiesIn (rows : List (List Element)) : List (Entity × Record) := rows.flatten.filterMap Element.entity?

/-- An element with its entity, if it is one, shown by another record. -/
def Element.showing (shown : Entity → Record → Record) : Element → Element
  | .entity e (some r) => .entity e (some (shown e r))
  | a => a

theorem mem_entitiesIn {rows : List (List Element)} {e : Entity} {r : Record} :
    (e, r) ∈ entitiesIn rows ↔ ∃ row ∈ rows, Element.entity e (some r) ∈ row := by
  rw [entitiesIn, List.mem_filterMap]
  constructor
  · rintro ⟨a, ha, hentity⟩
    obtain ⟨row, hrow, ha⟩ := List.mem_flatten.mp ha
    rcases a with ⟨e', _ | r'⟩ | ⟨type, c⟩ <;> cases hentity
    exact ⟨row, hrow, ha⟩
  · rintro ⟨row, hrow, ha⟩
    exact ⟨_, List.mem_flatten.mpr ⟨row, hrow, ha⟩, rfl⟩

theorem entitiesIn_showing (shown : Entity → Record → Record) (rows : List (List Element)) :
    entitiesIn (rows.map fun row => row.map (Element.showing shown)) =
      (entitiesIn rows).map fun x => (x.1, shown x.1 x.2) := by
  have hentity : ∀ a : Element, (a.showing shown).entity? = a.entity?.map fun x => (x.1, shown x.1 x.2) := by
    rintro (⟨e, _ | r⟩ | ⟨type, c⟩) <;> rfl
  simp only [entitiesIn, ← List.map_flatten, List.filterMap_map, List.map_filterMap]
  exact congrArg (fun f => rows.flatten.filterMap f) (funext hentity)

/-- The entities in results are those among the elements that the results stand for. -/
theorem entitiesOf_map_ofElement (as : List Element) :
    Result.entitiesOf (as.map Result.ofElement) = as.filterMap Element.entity? := by
  induction as with
  | nil => rfl
  | cons a rest ih =>
      rcases a with ⟨e, _ | r⟩ | ⟨type, c⟩ <;>
        simp [Result.entitiesOf, Result.ofElement, Result.entities, Element.entity?, List.filterMap_cons, ih]

theorem entitiesOf_map_tuple (rows : List (List Element)) :
    Result.entitiesOf (rows.map fun row => .tuple (row.map Result.ofElement)) = entitiesIn rows := by
  induction rows with
  | nil => rfl
  | cons row rest ih =>
      rw [List.map_cons, Result.entitiesOf, ih, Result.entities, entitiesOf_map_ofElement, entitiesIn,
        entitiesIn, List.flatten_cons, List.filterMap_append]

/-- Nothing is added when repeated entities are dropped. -/
theorem mem_of_mem_dropRepeatedEntities {a : Element} {seen : List (Entity × Record)} {as : List Element}
    (h : a ∈ dropRepeatedEntities seen as) : a ∈ as := by
  induction as generalizing seen with
  | nil => cases h
  | cons b rest ih =>
      rcases b with ⟨e, _ | r⟩ | ⟨type, c⟩
      case entity.some =>
        rw [dropRepeatedEntities] at h
        split at h
        · exact List.mem_cons_of_mem _ (ih h)
        · rcases List.mem_cons.mp h with rfl | h
          · exact List.mem_cons_self
          · exact List.mem_cons_of_mem _ (ih h)
      all_goals
        rcases List.mem_cons.mp h with rfl | h
        · exact List.mem_cons_self
        · exact List.mem_cons_of_mem _ (ih h)

theorem entities_ofElement (a : Element) : (Result.ofElement a).entities = a.entity?.toList := by
  rcases a with ⟨e, _ | r⟩ | ⟨type, c⟩ <;> rfl

/-- Hydration brings no entities of its own into a result. -/
theorem mem_entities_of_hydrate {mode : Hydration} {items : List SelectItem} {rows : List (List Element)}
    {r : Result} {x : Entity × Record} (h : hydrate mode items rows = .ok r) (hx : x ∈ r.entities) :
    x ∈ entitiesIn rows := by
  -- Whatever the form is, the entity is that of an element of some row.
  suffices ∃ a ∈ rows.flatten, a.entity? = some x from List.mem_filterMap.mpr this
  cases mode with
  | array =>
      rw [Repository.entities_of_hydrate_array h] at hx
      cases hx
  | scalar =>
      cases h
      have hheads : (rows.filterMap fun row => row.head?.map Result.ofElement) =
          (rows.filterMap List.head?).map Result.ofElement := by
        rw [List.map_filterMap]
      rw [Result.entities, hheads, entitiesOf_map_ofElement] at hx
      obtain ⟨a, ha, hentity⟩ := List.mem_filterMap.mp hx
      obtain ⟨row, hrow, hhead⟩ := List.mem_filterMap.mp ha
      exact ⟨a, List.mem_flatten.mpr ⟨row, hrow, List.mem_of_head? hhead⟩, hentity⟩
  | object =>
      rw [hydrate] at h
      split at h
      · cases h
        rw [Result.entities, entitiesOf_map_ofElement] at hx
        obtain ⟨a, ha, hentity⟩ := List.mem_filterMap.mp hx
        exact ⟨a, mem_of_mem_dropRepeatedEntities ha, hentity⟩
      · cases h
        rw [Result.entities, entitiesOf_map_tuple] at hx
        exact List.mem_filterMap.mp hx
  | singleScalar =>
      -- There is a result only where there is one row.
      rcases rows with _ | ⟨row, _ | ⟨other, rest⟩⟩
      · cases h
      · cases h
        cases row with
        | nil => cases hx
        | cons a rest =>
            simp only [List.head?_cons, Option.map_some, Option.getD_some, entities_ofElement,
              Option.mem_toList] at hx
            exact ⟨a, by simp, hx⟩
      · cases h

/-! ## Entities held -/

theorem sameEntity_iff {e f : Entity} {r s : Record} :
    sameEntity e f r s = true ↔ e = f ∧ r.key = s.key := by
  simp [sameEntity]

/-- Whether an entity of a key is held. -/
def Holds (held : List (Entity × Record)) (e : Entity) (key : Cell) : Prop :=
  ∃ x ∈ held, x.1 = e ∧ x.2.key = key

namespace Session

variable {held : List (Entity × Record)} {e : Entity} {r : Record}

/-- What is remembered of an entity is held, with the same key. -/
theorem mem_of_lastSeen? {t : Record} (h : lastSeen? held e r = some t) : (e, t) ∈ held ∧ t.key = r.key := by
  obtain ⟨x, hx, rfl⟩ := Option.map_eq_some_iff.mp h
  have hsame : sameEntity x.1 e x.2 r = true := by simpa using List.find?_some hx
  obtain ⟨rfl, hkey⟩ := sameEntity_iff.mp hsame
  exact ⟨List.mem_of_find?_eq_some hx, hkey⟩

theorem lastSeen?_eq_none : lastSeen? held e r = none ↔ ¬ Holds held e r.key := by
  rw [lastSeen?, Option.map_eq_none_iff, List.find?_eq_none]
  constructor
  · rintro h ⟨x, hx, hentity, hkey⟩
    exact h x hx (sameEntity_iff.mpr ⟨hentity, hkey⟩)
  · intro h x hx hsame
    exact h ⟨x, hx, sameEntity_iff.mp hsame⟩

theorem shown_eq (held : List (Entity × Record)) :
    shown held = Element.showing fun e r => (lastSeen? held e r).getD r := by
  funext a
  rcases a with ⟨e, _ | r⟩ | ⟨type, c⟩ <;> rfl

/-! ### Loading anew -/

/-- What is held after some elements have been loaded anew was held before and is not among them, or is one of
them. -/
theorem mem_foldl_refreshOne {as : List Element} {x : Entity × Record}
    (h : x ∈ as.foldl refreshOne held) :
    (x ∈ held ∧ ∀ y ∈ as.filterMap Element.entity?, ¬ (y.1 = x.1 ∧ y.2.key = x.2.key)) ∨
      x ∈ as.filterMap Element.entity? := by
  induction as generalizing held with
  | nil => exact .inl ⟨h, by simp⟩
  | cons a rest ih =>
      rw [List.foldl_cons] at h
      rw [List.filterMap_cons]
      rcases a with ⟨f, _ | t⟩ | ⟨type, c⟩
      case entity.some =>
        simp only [Element.entity?, List.mem_cons]
        rcases ih h with ⟨hx, hrest⟩ | hx
        · obtain ⟨y, hy, rfl⟩ := List.mem_map.mp hx
          -- The first element has taken the place of what was held for its key, or is of another key.
          split
          · exact .inr (.inl rfl)
          · rename_i hdiffer
            rw [if_neg hdiffer] at hrest
            refine .inl ⟨hy, ?_⟩
            rintro z (rfl | hz)
            · rintro ⟨hentity, hkey⟩
              exact hdiffer (sameEntity_iff.mpr ⟨hentity.symm, hkey.symm⟩)
            · exact hrest z hz
        · exact .inr (.inr hx)
      all_goals exact ih h

theorem mem_refresh {rows : List (List Element)} {x : Entity × Record} (h : x ∈ refresh held rows) :
    (x ∈ held ∧ ∀ y ∈ entitiesIn rows, ¬ (y.1 = x.1 ∧ y.2.key = x.2.key)) ∨ x ∈ entitiesIn rows :=
  mem_foldl_refreshOne h

/-- Loading anew changes what is held of entities and not which are held. -/
theorem holds_refresh {rows : List (List Element)} {key : Cell} :
    Holds (refresh held rows) e key ↔ Holds held e key := by
  unfold refresh
  generalize rows.flatten = as
  induction as generalizing held with
  | nil => exact Iff.rfl
  | cons a rest ih =>
      rw [List.foldl_cons, ih]
      rcases a with ⟨f, _ | t⟩ | ⟨type, c⟩
      case entity.some =>
        -- An entity that is replaced is replaced by one of the same key.
        have hsame : ∀ y : Entity × Record, (if sameEntity y.1 f y.2 t then (f, t) else y).1 = y.1 ∧
            (if sameEntity y.1 f y.2 t then (f, t) else y).2.key = y.2.key := by
          intro y
          split
          · rename_i h
            obtain ⟨hentity, hkey⟩ := sameEntity_iff.mp h
            exact ⟨hentity.symm, hkey.symm⟩
          · exact ⟨rfl, rfl⟩
        simp only [Holds, refreshOne, List.mem_map]
        constructor
        · rintro ⟨-, ⟨y, hy, rfl⟩, hentity, hkey⟩
          exact ⟨y, hy, (hsame y).1 ▸ hentity, (hsame y).2 ▸ hkey⟩
        · rintro ⟨y, hy, hentity, hkey⟩
          exact ⟨_, ⟨y, hy, rfl⟩, (hsame y).1.trans hentity, (hsame y).2.trans hkey⟩
      all_goals exact Iff.rfl

/-! ### Holding results -/

/-- One more result is held if its entity is not held yet. -/
def holdOne (held : List (Entity × Record)) (x : Entity × Record) : List (Entity × Record) :=
  if (lastSeen? held x.1 x.2).isSome then held else held ++ [x]

theorem holdOne_of_holds {x : Entity × Record} (h : Holds held x.1 x.2.key) : holdOne held x = held := by
  have hseen : (lastSeen? held x.1 x.2).isSome = true := by
    refine Option.isSome_iff_ne_none.mpr fun hnone => ?_
    exact lastSeen?_eq_none.mp hnone h
  rw [holdOne, if_pos hseen]

theorem holdOne_of_not_holds {x : Entity × Record} (h : ¬ Holds held x.1 x.2.key) :
    holdOne held x = held ++ [x] := by
  rw [holdOne, lastSeen?_eq_none.mpr h]
  rfl

theorem holds_append_singleton {x : Entity × Record} {key : Cell} :
    Holds (held ++ [x]) e key ↔ Holds held e key ∨ (x.1 = e ∧ x.2.key = key) := by
  simp [Holds, or_and_right, exists_or]

/-- What is held after some results was held before, or is one of them whose entity was not held. -/
theorem mem_foldl_holdOne {xs : List (Entity × Record)} {x : Entity × Record}
    (h : x ∈ xs.foldl holdOne held) : x ∈ held ∨ (x ∈ xs ∧ ¬ Holds held x.1 x.2.key) := by
  induction xs generalizing held with
  | nil => exact .inl h
  | cons y rest ih =>
      rw [List.foldl_cons] at h
      -- Results that follow are held or not beside what is held by then, which is never less.
      by_cases hy : Holds held y.1 y.2.key
      · rw [holdOne_of_holds hy] at h
        exact (ih h).imp_right fun ⟨hx, hnew⟩ => ⟨List.mem_cons_of_mem _ hx, hnew⟩
      · rw [holdOne_of_not_holds hy] at h
        rcases ih h with hx | ⟨hx, hnew⟩
        · rcases List.mem_append.mp hx with hx | hx
          · exact .inl hx
          · obtain rfl : x = y := List.mem_singleton.mp hx
            exact .inr ⟨List.mem_cons_self, hy⟩
        · rw [holds_append_singleton, not_or] at hnew
          exact .inr ⟨List.mem_cons_of_mem _ hx, hnew.1⟩

/-- After some results their entities are held, and those held before. -/
theorem holds_foldl_holdOne {xs : List (Entity × Record)} {key : Cell} :
    Holds (xs.foldl holdOne held) e key ↔ Holds held e key ∨ Holds xs e key := by
  induction xs generalizing held with
  | nil => simp [Holds]
  | cons y rest ih =>
      have hcons : Holds (y :: rest) e key ↔ (y.1 = e ∧ y.2.key = key) ∨ Holds rest e key := by
        simp [Holds]
      rw [List.foldl_cons, ih, hcons, ← or_assoc]
      refine or_congr_left ?_
      by_cases hy : Holds held y.1 y.2.key
      · rw [holdOne_of_holds hy, iff_self_or]
        rintro ⟨rfl, rfl⟩
        exact hy
      · rw [holdOne_of_not_holds hy, holds_append_singleton]

end Session
end Criteria
