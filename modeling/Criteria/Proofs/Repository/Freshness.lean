import Criteria.Proofs.Query.Holding
import Criteria.Proofs.Query.Options
import Criteria.Proofs.Repository.Agreement
import Criteria.Proofs.Statement.Stored

/-!
# How fresh entities are

A session is asked again and again while its database changes behind its back. The rows that a call finds are
always those of the database as it is then, but an entity in them need not show the record it has there. A call
loads the entities it finds if they are to be loaded anew, and otherwise those that no earlier result holds.
Every entity shows the record of its most recent load, whatever the form of the results is
(`shows_most_recent_load`). What is held after some calls carries this from call to call (`Remembers`).
-/

namespace Criteria

/-! ## Rows and what is shown of them -/

namespace Query

/-- The rows that a query finds in a database. -/
def rows (q : Query) (db : Database) : Except Fault (List (List Element)) :=
  (q.statement.run db).bind fun rows =>
    if q.hasOption "stream_results" || q.hasOption "yield_per" then .error .serverCursor else .ok rows

/-- The record that an entity found with some record shows. -/
def shows (q : Query) (held : List (Entity × Record)) (e : Entity) (r : Record) : Record :=
  if q.hasOption "populate_existing" then r else (Session.lastSeen? held e r).getD r

theorem shows_of_anew {q : Query} (hanew : q.hasOption "populate_existing" = true)
    (held : List (Entity × Record)) : q.shows held = fun _ r => r := by
  funext e r
  rw [shows, hanew, if_pos rfl]

theorem shows_of_not_anew {q : Query} (hkept : q.hasOption "populate_existing" = false)
    (held : List (Entity × Record)) : q.shows held = fun e r => (Session.lastSeen? held e r).getD r := by
  funext e r
  rw [shows, hkept, if_neg Bool.false_ne_true]

/-- What is shown is the record found, unless it is one that is held. -/
theorem shows_cases (q : Query) (held : List (Entity × Record)) (e : Entity) (r : Record) :
    (e, q.shows held e r) ∈ held ∨ q.shows held e r = r := by
  unfold shows
  split
  · exact .inr rfl
  · cases hseen : Session.lastSeen? held e r with
    | none => exact .inr rfl
    | some t => exact .inl (Session.mem_of_lastSeen? hseen).1

theorem map_showing_self (rows : List (List Element)) :
    (rows.map fun row => row.map (Element.showing fun _ r => r)) = rows := by
  have hself : Element.showing (fun _ r => r) = id := by
    funext a
    rcases a with ⟨e, _ | r⟩ | ⟨type, c⟩ <;> rfl
  simp [hself]

/-- The database decides which rows there are, and what is held only what the entities in them show. -/
theorem loaded_eq {q : Query} (hsession : q.inSession = true) (s : Session) :
    q.loaded s = (q.rows s.database).map fun rows =>
      rows.map fun row => row.map (Element.showing (q.shows s.held)) := by
  unfold loaded rows
  rw [hsession, if_pos rfl]
  cases q.statement.run s.database with
  | error f => rfl
  | ok rows =>
      simp only [Except.bind]
      cases q.hasOption "stream_results" || q.hasOption "yield_per" with
      | true => rfl
      | false =>
          simp only [Bool.false_eq_true, if_false, Except.map]
          cases hanew : q.hasOption "populate_existing" with
          | true => rw [if_pos rfl, shows_of_anew hanew, map_showing_self]
          | false => rw [if_neg Bool.false_ne_true, shows_of_not_anew hanew, ← Session.shown_eq]

/-- The entities found are records of the database. -/
theorem record_mem_of_mem_rows {q : Query} {db : Database} {rows : List (List Element)} {e : Entity}
    {r : Record} (hrows : q.rows db = .ok rows) (h : (e, r) ∈ entitiesIn rows) : r ∈ db.records e := by
  obtain ⟨rows', hrun, hkept⟩ := bind_eq_ok.mp hrows
  split at hkept
  · cases hkept
  · cases hkept
    obtain ⟨row, hrow, hmem⟩ := mem_entitiesIn.mp h
    exact Statement.record_mem_of_mem_run hrun hrow hmem

end Query

/-! ## Calls -/

/-- What a session is asked, as far as its entities go. -/
structure Call where
  /-- The entities in the rows found, with the records that they have in the database. -/
  found : List (Entity × Record)
  /-- Whether they are loaded anew. -/
  anew : Bool
  /-- The entities in the results. -/
  returned : List (Entity × Record)

/-- Whether results of some calls hold an entity of a key. -/
def Held (calls : List Call) (e : Entity) (key : Cell) : Prop := ∃ c ∈ calls, Holds c.returned e key

/-- Whether a call behind others loads an entity from a record. -/
def Call.Loads (before : List Call) (c : Call) (e : Entity) (r : Record) : Prop :=
  (e, r) ∈ c.found ∧ (c.anew = true ∨ ¬ Held before e r.key)

/-- Whether the most recent load of an entity was from a record. -/
inductive LastLoaded : List Call → Entity → Record → Prop
  | here {before : List Call} {c : Call} {e : Entity} {r : Record} :
      c.Loads before e r → LastLoaded (before ++ [c]) e r
  | earlier {before : List Call} {c : Call} {e : Entity} {r : Record} :
      LastLoaded before e r → (∀ r' : Record, r'.key = r.key → ¬ c.Loads before e r') →
        LastLoaded (before ++ [c]) e r

theorem held_append {calls : List Call} {c : Call} {e : Entity} {key : Cell} :
    Held (calls ++ [c]) e key ↔ Held calls e key ∨ Holds c.returned e key := by
  simp [Held, or_and_right, exists_or]

/-- What was loaded was found by some call. -/
theorem LastLoaded.exists_found {calls : List Call} {e : Entity} {r : Record} (h : LastLoaded calls e r) :
    ∃ c ∈ calls, (e, r) ∈ c.found := by
  induction h with
  | @here before c e r hload => exact ⟨c, by simp, hload.1⟩
  | earlier _ _ ih =>
      obtain ⟨c, hc, hmem⟩ := ih
      exact ⟨c, List.mem_append_left _ hc, hmem⟩

/-- Where a call has loaded an entity anew, the most recent load is by that call or by one behind it. -/
theorem LastLoaded.since {calls : List Call} {e : Entity} {r : Record} (h : LastLoaded calls e r)
    {before after : List Call} {c : Call} (hcalls : calls = before ++ c :: after) (hanew : c.anew = true)
    (hfound : Holds c.found e r.key) : ∃ c' ∈ c :: after, (e, r) ∈ c'.found := by
  induction h generalizing after with
  | @here first last e r hload =>
      -- The last call is behind the others, or it is the one that has loaded the entity anew.
      refine ⟨last, ?_, hload.1⟩
      have hlast := congrArg List.getLast? hcalls
      rw [List.getLast?_concat, List.getLast?_append, List.getLast?_cons] at hlast
      obtain rfl : last = after.getLast?.getD c := by simpa using hlast
      cases hafter : after.getLast? with
      | none => simp
      | some d => exact List.mem_cons_of_mem _ (List.mem_of_getLast? hafter)
  | @earlier first last e r hload hlater ih =>
      -- A last call that has loaded the entity anew would be its most recent load.
      rcases List.eq_nil_or_concat after with rfl | ⟨rest, d, rfl⟩
      · obtain ⟨rfl, hc⟩ := List.append_inj' hcalls rfl
        obtain rfl : last = c := by simpa using hc
        obtain ⟨x, hx, rfl, hkey⟩ := hfound
        exact absurd ⟨hx, .inl hanew⟩ (hlater x.2 hkey)
      · rw [List.concat_eq_append, ← List.cons_append, ← List.append_assoc] at hcalls
        obtain ⟨hfirst, -⟩ := List.append_inj' hcalls rfl
        obtain ⟨c', hc', hmem⟩ := ih hfirst hfound
        refine ⟨c', ?_, hmem⟩
        rw [List.concat_eq_append, ← List.cons_append]
        exact List.mem_append_left _ hc'

/-! ## Histories of a session -/

/-- What happens to a session: it is asked for what matches a specification, or its database changes behind its
back. -/
inductive Move where
  | ask (repo : Repository) (spec : Operand) (m : Option Modifier)
  | write (db : Database)

/-- The database after some moves. -/
def Move.database (db : Database) : List Move → Database
  | [] => db
  | .ask _ _ _ :: rest => database db rest
  | .write db' :: rest => database db' rest

namespace Repository

/-- The rows that a call of a repository finds in a database: none where it fails before there are rows. -/
def rowsFound (repo : Repository) (spec : Operand) (m : Option Modifier) (db : Database) :
    List (List Element) :=
  if repo.hasSession then ((repo.query spec m).1.bind fun q => q.rows db).toOption.getD [] else []

/-- What a session is asked by a call of a repository. -/
def call (repo : Repository) (spec : Operand) (m : Option Modifier) (s : Session) : Call where
  found := entitiesIn (repo.rowsFound spec m s.database)
  anew := Modifier.asks m "populate_existing"
  returned :=
    match repo.outcome .all spec m s with
    | .ok r => r.entities
    | .error _ => []

end Repository

namespace Session

/-- A session after a move. -/
def after (s : Session) : Move → Session
  | .ask repo spec m => (runFrom s (repo.find .all spec m)).2
  | .write db => { s with database := db }

def play (s : Session) (moves : List Move) : Session := moves.foldl after s

def calls (s : Session) : List Move → List Call
  | [] => []
  | .ask repo spec m :: rest => repo.call spec m s :: calls (s.after (.ask repo spec m)) rest
  | .write db :: rest => calls (s.after (.write db)) rest

end Session

/-! ## What is remembered of calls -/

/-- Whether what is held is what results of some calls hold, each entity from its most recent load. -/
structure Remembers (held : List (Entity × Record)) (calls : List Call) : Prop where
  holds : ∀ e key, Holds held e key ↔ Held calls e key
  recent : ∀ x ∈ held, LastLoaded calls x.1 x.2

theorem remembers_nil : Remembers [] [] where
  holds := by simp [Holds, Held]
  recent := by simp

namespace Repository

variable {repo : Repository} {spec : Operand} {m : Option Modifier} {s : Session}

/-- What a call finds, in the form asked for and with every entity as it is shown. -/
theorem outcome_of_query {q : Query} (hsession : repo.hasSession = true) (hq : (repo.query spec m).1 = .ok q) :
    repo.outcome .all spec m s = (q.rows s.database).bind fun rows =>
      hydrate q.mode q.statement.items (rows.map fun row => row.map (Element.showing (q.shows s.held))) := by
  have hinside : q.inSession = true := (hasOption_of_query hq).2.trans hsession
  rw [outcome, find_outcome, hsession, hq, if_pos rfl]
  simp only [Except.bind, Query.loaded_eq hinside, Fetch.select]
  cases q.rows s.database <;> rfl

theorem rowsFound_of_query {q : Query} {rows : List (List Element)} (hsession : repo.hasSession = true)
    (hq : (repo.query spec m).1 = .ok q) (hrows : q.rows s.database = .ok rows) :
    repo.rowsFound spec m s.database = rows := by
  rw [rowsFound, if_pos hsession, hq]
  simp only [Except.bind, hrows]
  rfl

/-- Where a call finds rows, they are those of its query. -/
theorem rows_of_rowsFound_ne_nil {q : Query} {db : Database} (hsession : repo.hasSession = true)
    (hq : (repo.query spec m).1 = .ok q) (h : repo.rowsFound spec m db ≠ []) :
    q.rows db = .ok (repo.rowsFound spec m db) := by
  rw [rowsFound, if_pos hsession, hq] at h ⊢
  simp only [Except.bind] at h ⊢
  cases hrows : q.rows db with
  | error f =>
      rw [hrows] at h
      exact absurd rfl h
  | ok rows => rfl

/-- An entity in results is as it was held, or as it was found. -/
theorem mem_of_mem_returned {x : Entity × Record} (h : x ∈ (repo.call spec m s).returned) :
    x ∈ s.held ∨ x ∈ (repo.call spec m s).found := by
  -- There are results only of rows that have been found.
  obtain ⟨r, hr, hx⟩ : ∃ r, repo.outcome .all spec m s = .ok r ∧ x ∈ r.entities := by
    simp only [call] at h
    cases hr : repo.outcome .all spec m s with
    | error f => simp [hr] at h
    | ok r => exact ⟨r, rfl, by simpa [hr] using h⟩
  obtain ⟨hsession, b, hb⟩ := builder_of_find hr
  cases hq : (repo.query spec m).1 with
  | error f =>
      rw [outcome, find_outcome, hsession, hq] at hr
      cases hr
  | ok q =>
      rw [outcome_of_query hsession hq] at hr
      obtain ⟨rows, hrows, hr⟩ := bind_eq_ok.mp hr
      have hshown := mem_entities_of_hydrate hr hx
      rw [entitiesIn_showing] at hshown
      obtain ⟨⟨e, t⟩, hfound, rfl⟩ := List.mem_map.mp hshown
      rw [call, rowsFound_of_query hsession hq hrows]
      show (e, q.shows s.held e t) ∈ s.held ∨ (e, q.shows s.held e t) ∈ entitiesIn rows
      rcases q.shows_cases s.held e t with hheld | hsame
      · exact .inl hheld
      · rw [hsame]
        exact .inr hfound

/-- A call that is to load entities anew does so with all that it finds. -/
theorem refreshed_eq : repo.refreshed spec m s =
    if (repo.call spec m s).anew then Session.refresh s.held (repo.rowsFound spec m s.database) else s.held := by
  have hnone : (if (repo.call spec m s).anew then Session.refresh s.held [] else s.held) = s.held := by
    split <;> rfl
  rw [refreshed, rowsFound]
  -- A call without rows loads nothing.
  cases hsession : repo.hasSession with
  | false => exact hnone.symm
  | true =>
      cases hq : (repo.query spec m).1 with
      | error f => exact hnone.symm
      | ok q =>
          obtain ⟨hoption, hinside⟩ := hasOption_of_query hq
          simp only [if_true, Except.bind, Query.refreshed, Query.loaded_eq (hinside.trans hsession)]
          cases q.rows s.database with
          | error f => exact hnone.symm
          | ok rows =>
              show (if q.hasOption "populate_existing" then Session.refresh s.held
                (rows.map fun row => row.map (Element.showing (q.shows s.held))) else s.held) = _
              rw [hoption]
              show _ = if Modifier.asks m "populate_existing" then Session.refresh s.held rows else s.held
              split
              · rename_i hanew
                rw [Query.shows_of_anew ((hoption _).trans hanew), Query.map_showing_self]
              · rfl

/-- What a call leaves held. -/
theorem held_after_ask : (s.after (.ask repo spec m)).held =
    (repo.call spec m s).returned.foldl Session.holdOne
      (if (repo.call spec m s).anew then Session.refresh s.held (repo.rowsFound spec m s.database)
        else s.held) := by
  obtain ⟨trace, hafter⟩ := repo.find_session .all spec m s
  rw [← refreshed_eq, Session.after, hafter, call]
  show (match repo.outcome .all spec m s with
    | .ok r => Session.hold (repo.refreshed spec m s) r
    | .error _ => repo.refreshed spec m s) = _
  cases repo.outcome .all spec m s <;> rfl

end Repository

/-! ## Runs -/

namespace Remembers

variable {held : List (Entity × Record)} {before : List Call} {c : Call} {rows : List (List Element)}

/-- An entity that is held after loading shows the record of its most recent load. -/
theorem recent_loaded (h : Remembers held before) (hfound : c.found = entitiesIn rows) {x : Entity × Record}
    (hx : x ∈ if c.anew then Session.refresh held rows else held) : LastLoaded (before ++ [c]) x.1 x.2 := by
  -- What was held is not loaded again, unless all that is found is.
  have hkept : x ∈ held → (c.anew = true → ∀ y ∈ c.found, ¬ (y.1 = x.1 ∧ y.2.key = x.2.key)) →
      LastLoaded (before ++ [c]) x.1 x.2 := by
    intro hmem hnot
    refine .earlier (h.recent x hmem) ?_
    rintro r' hkey ⟨hr', hanew | hnew⟩
    · exact hnot hanew _ hr' ⟨rfl, hkey⟩
    · exact hnew ((h.holds _ _).mp ⟨x, hmem, rfl, hkey.symm⟩)
  split at hx
  · rename_i hanew
    rcases Session.mem_refresh hx with ⟨hmem, hnot⟩ | hmem
    · exact hkept hmem fun _ => hfound ▸ hnot
    · exact .here ⟨hfound ▸ hmem, .inl hanew⟩
  · rename_i hold
    exact hkept hx fun hanew => absurd hanew hold

/-- Loading anew changes records, not which entities are held. -/
theorem holds_loaded (h : Remembers held before) (e : Entity) (key : Cell) :
    Holds (if c.anew then Session.refresh held rows else held) e key ↔ Held before e key := by
  rw [← h.holds]
  split
  · exact Session.holds_refresh
  · exact Iff.rfl

/-- **Step.** A call keeps what is remembered in line with the calls. -/
theorem call (h : Remembers held before) (hfound : c.found = entitiesIn rows)
    (hreturned : ∀ x ∈ c.returned, x ∈ held ∨ x ∈ c.found) :
    Remembers (c.returned.foldl Session.holdOne (if c.anew then Session.refresh held rows else held))
      (before ++ [c]) where
  holds e key := by rw [Session.holds_foldl_holdOne, h.holds_loaded, held_append]
  recent x hx := by
    rcases Session.mem_foldl_holdOne hx with hx | ⟨hx, hnew⟩
    · exact h.recent_loaded hfound hx
    · -- A result that was not held has been loaded by the call.
      rw [h.holds_loaded] at hnew
      rcases hreturned x hx with hmem | hmem
      · exact absurd ((h.holds _ _).mp ⟨x, hmem, rfl, rfl⟩) hnew
      · exact .here ⟨hmem, .inr hnew⟩

/-- **Run.** What is held after some moves is what results of the calls in them hold, each entity from its most
recent load. -/
theorem play {s : Session} (h : Remembers s.held before) (moves : List Move) :
    Remembers (s.play moves).held (before ++ s.calls moves) := by
  induction moves generalizing s before with
  | nil =>
      rw [Session.calls, List.append_nil]
      exact h
  | cons move rest ih =>
      cases move with
      | write db => exact ih h
      | ask repo spec m =>
          have hstep : Remembers (s.after (.ask repo spec m)).held (before ++ [repo.call spec m s]) := by
            rw [Repository.held_after_ask]
            exact h.call rfl fun x hx => Repository.mem_of_mem_returned hx
          have hrest := ih hstep
          rwa [List.append_assoc] at hrest

end Remembers

namespace Session

theorem database_after_ask (repo : Repository) (spec : Operand) (m : Option Modifier) (s : Session) :
    (s.after (.ask repo spec m)).database = s.database := by
  obtain ⟨trace, hafter⟩ := repo.find_session .all spec m s
  rw [after, hafter]

/-- Calls leave the database alone. -/
theorem database_play (s : Session) (moves : List Move) :
    (s.play moves).database = Move.database s.database moves := by
  induction moves generalizing s with
  | nil => rfl
  | cons move rest ih =>
      cases move with
      | write db => exact ih (s.after (.write db))
      | ask repo spec m =>
          have hrest := ih (s.after (.ask repo spec m))
          rwa [database_after_ask] at hrest

end Session

/-! ## What a call shows -/

/-- What a call behind others shows of an entity that it finds with a record `r`. -/
structure Shown (before : List Call) (anew : Bool) (e : Entity) (r shown : Record) : Prop where
  key : shown.key = r.key
  /-- What is loaded anew is as in the database, -/
  reloaded : anew = true → shown = r
  /-- and so is what no earlier result holds. -/
  loaded : ¬ Held before e r.key → shown = r
  /-- Anything else is as when it was last loaded, -/
  remembered : anew = false → Held before e r.key → LastLoaded before e shown
  /-- which is not before an earlier call has loaded it anew. -/
  since : anew = false → Held before e r.key →
    ∀ first c rest, before = first ++ c :: rest → c.anew = true → Holds c.found e r.key →
      ∃ c' ∈ c :: rest, (e, shown) ∈ c'.found

theorem shown_self (before : List Call) {anew : Bool} {e : Entity} {r : Record}
    (h : anew = true ∨ ¬ Held before e r.key) : Shown before anew e r r := by
  -- Nothing has to be remembered of an entity that the call loads.
  have hloads : anew = false → ¬ Held before e r.key := by
    rintro rfl
    rcases h with h | h
    · cases h
    · exact h
  exact ⟨rfl, fun _ => rfl, fun _ => rfl, fun hanew hheld => absurd hheld (hloads hanew),
    fun hanew hheld => absurd hheld (hloads hanew)⟩

/-- Out of what is remembered, an entity is shown as it should be. -/
theorem Remembers.shown {held : List (Entity × Record)} {before : List Call} (h : Remembers held before)
    (q : Query) (e : Entity) (r : Record) :
    Shown before (q.hasOption "populate_existing") e r (q.shows held e r) := by
  cases hanew : q.hasOption "populate_existing" with
  | true =>
      rw [Query.shows_of_anew hanew]
      exact shown_self before (.inl rfl)
  | false =>
      rw [Query.shows_of_not_anew hanew]
      show Shown before false e r ((Session.lastSeen? held e r).getD r)
      cases hseen : Session.lastSeen? held e r with
      -- Nothing is held for its key: this call loads it.
      | none =>
          have hnew := Session.lastSeen?_eq_none.mp hseen
          rw [h.holds] at hnew
          exact shown_self before (.inr hnew)
      -- It is held, from its most recent load.
      | some t =>
          obtain ⟨hmem, hkey⟩ := Session.mem_of_lastSeen? hseen
          have hlast := h.recent _ hmem
          have hheld : Held before e r.key := (h.holds _ _).mp ⟨_, hmem, rfl, hkey⟩
          refine ⟨hkey, nofun, fun hnew => absurd hheld hnew, fun _ _ => hlast, ?_⟩
          intro _ _ first c rest hbefore hc hfound
          exact hlast.since hbefore hc (hkey.symm ▸ hfound)

namespace Repository

/-- **Every entity shows the record of its most recent load.** After any calls, and whatever has been written
behind the session's back, the rows that a call finds are those of the database as it is now. In whichever form
they are asked for, an entity in them shows its record in the database if the call loads it, because it is asked
to load entities anew or because no earlier result holds the entity, and otherwise the record from which it was
last loaded. -/
theorem shows_most_recent_load (db : Database) (moves : List Move) (repo : Repository) (spec : Operand)
    (m : Option Modifier) (q : Query) (hsession : repo.hasSession = true) (hq : (repo.query spec m).1 = .ok q) :
    let s := Session.play { database := db } moves
    let before := Session.calls { database := db } moves
    (∀ f, q.rows (Move.database db moves) = .error f → repo.outcome .all spec m s = .error f) ∧
    ∀ rows, q.rows (Move.database db moves) = .ok rows →
      (∀ e r, (e, r) ∈ entitiesIn rows → r ∈ (Move.database db moves).records e) ∧
      ∃ shown : Entity → Record → Record,
        repo.outcome .all spec m s =
          hydrate q.mode q.statement.items (rows.map fun row => row.map (Element.showing shown)) ∧
        ∀ e r, (e, r) ∈ entitiesIn rows →
          Shown before (Modifier.asks m "populate_existing") e r (shown e r) := by
  intro s before
  -- What the session holds is what the calls before have found: by induction on the moves.
  have hremembers : Remembers s.held before :=
    @Remembers.play [] { database := db } remembers_nil moves
  have houtcome := @outcome_of_query repo spec m s q hsession hq
  have hdatabase : s.database = Move.database db moves := Session.database_play { database := db } moves
  rw [hdatabase] at houtcome
  refine ⟨?_, ?_⟩
  · intro f hf
    rw [houtcome, hf]
    rfl
  · intro rows hrows
    rw [hrows] at houtcome
    refine ⟨fun e r hmem => Query.record_mem_of_mem_rows hrows hmem, q.shows s.held, houtcome, ?_⟩
    intro e r _
    rw [← (hasOption_of_query hq).1 "populate_existing"]
    exact hremembers.shown q e r

/-- A user is found by its number, and then renamed behind the session's back. -/
def aliceRenamed : List Move :=
  [.ask { entity := .user } (.spec (.filter none "id" (.compare true .eq (.int 1)))) none,
    .write (Database.sample.update .user (.int 1) "name" (.text "Alicia"))]

/-- The renamed user is found by the new name and shows the one that it was loaded with. -/
theorem renamed_user_shown :
    ∃ (rows : List (List Element)) (shown : Entity → Record → Record),
      ({ entity := .user } : Repository).outcome .all
          (.spec (.filter none "name" (.compare true .eq (.str "Alicia")))) none
          (Session.play { database := .sample } aliceRenamed) =
        hydrate .object [.entity .user] (rows.map fun row => row.map (Element.showing shown)) ∧
      (entitiesIn rows).map (fun x => x.2.cell .user "name") = [.text "Alicia"] ∧
      (entitiesIn rows).map (fun x => (shown x.1 x.2).cell .user "name") = [.text "Alice"] := by
  have hq : (({ entity := .user } : Repository).query
      (.spec (.filter none "name" (.compare true .eq (.str "Alicia")))) none).1 = .ok _ := rfl
  obtain ⟨-, hshown⟩ := shows_most_recent_load .sample aliceRenamed { entity := .user } _ none _ rfl hq
  -- There is one row, with the user under the new name.
  have hone : (entitiesIn (({ entity := .user } : Repository).rowsFound
      (.spec (.filter none "name" (.compare true .eq (.str "Alicia")))) none
      (Move.database .sample aliceRenamed))).map (fun x => (x.1, x.2.key, x.2.cell .user "name")) =
        [(.user, .int 1, .text "Alicia")] := by decide +kernel
  have hsome : ({ entity := .user } : Repository).rowsFound
      (.spec (.filter none "name" (.compare true .eq (.str "Alicia")))) none
      (Move.database .sample aliceRenamed) ≠ [] := by
    intro hnil
    rw [hnil] at hone
    cases hone
  have hrows := rows_of_rowsFound_ne_nil rfl hq hsome
  obtain ⟨-, shown, houtcome, hall⟩ := hshown _ hrows
  obtain ⟨⟨e, r⟩, hfound, hr⟩ := List.map_eq_singleton_iff.mp hone
  obtain ⟨rfl, hkey, hname⟩ : e = .user ∧ r.key = .int 1 ∧ r.cell .user "name" = .text "Alicia" := by
    simpa using hr
  refine ⟨_, shown, houtcome, ?_, ?_⟩
  · rw [hfound, List.map_singleton, hname]
  · -- The only call before has found the user under the old name.
    have hheld : ∃ c ∈ Session.calls { database := .sample } aliceRenamed, ∃ x ∈ c.returned,
        x.1 = .user ∧ x.2.key = .int 1 := by decide +kernel
    have hloads : ∀ c ∈ Session.calls { database := .sample } aliceRenamed, ∀ x ∈ c.found,
        x.2.cell .user "name" = .text "Alice" := by decide +kernel
    have hlast := (hall .user r (hfound ▸ List.mem_singleton_self _)).remembered rfl (hkey ▸ hheld)
    obtain ⟨c, hc, hmem⟩ := hlast.exists_found
    rw [hfound, List.map_singleton]
    exact congrArg (fun cell => [cell]) (hloads c hc _ hmem)

end Repository
end Criteria
