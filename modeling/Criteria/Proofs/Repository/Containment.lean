import Criteria.Proofs.Repository.Example
import Criteria.Proofs.Spec.Leaves
import Criteria.Proofs.Text.Like
import Mathlib.Data.List.TakeWhile

/-!
# Searching in texts

A search by a part of a text finds the records whose text contains, begins with or ends with the value, and its
negation those of the others that have a text at all (`search_finds_texts`). This holds on every joined row and under
every alias. The value is put into the format of the search as it is: braces in it are not places, and nothing in it
is a wildcard. The store reads a text up to its first NUL, so that what stands behind one is not found
(`behind_nul_not_found`).
-/

namespace Criteria

/-! ## Formats -/

/-- A format with values put in for its empty places `\x7b\x7d`, in order; doubled braces stand for single ones. None
where a brace stands alone or values are missing. The values are not read again. -/
def Text.filled : List (List Char) → List Char → Option (List Char)
  | _, [] => some []
  | v :: vs, '\x7b' :: '\x7d' :: rest => (filled vs rest).map (v ++ ·)
  | vs, '\x7b' :: '\x7b' :: rest => (filled vs rest).map ('\x7b' :: ·)
  | vs, '\x7d' :: '\x7d' :: rest => (filled vs rest).map ('\x7d' :: ·)
  | vs, c :: rest => if c = '\x7b' ∨ c = '\x7d' then none else (filled vs rest).map (c :: ·)

namespace Placement

/-- Whether characters stand in a text where a placement has them. -/
def Occurs (p : Placement) (v text : List Char) : Prop :=
  match p with
  | .contains => v <:+: text
  | .startsWith => v <+: text
  | .endsWith => v <:+ text

instance (p : Placement) (v text : List Char) : Decidable (p.Occurs v text) :=
  match p with
  | .contains => inferInstanceAs (Decidable (v <:+: text))
  | .startsWith => inferInstanceAs (Decidable (v <+: text))
  | .endsWith => inferInstanceAs (Decidable (v <:+ text))

/-- The pattern of a placement is its format, filled with the text of the value. -/
theorem filled_format (p : Placement) (v : Value) :
    Text.filled [v.text.toList] p.format.toList = some (p.pattern v).toList := by
  cases p <;> simp [format, pattern, around, Text.filled]

/-- Whether no character of a value means anything but itself to the store. -/
def Searchable (v : String) : Prop := ∀ c ∈ v.toList, c ≠ '%' ∧ c ≠ '_' ∧ c ≠ '\x00'

instance (v : String) : Decidable (Searchable v) := List.decidableBAll _ _

theorem Searchable.literal {v : String} (hv : Searchable v) : Text.Literal v.toList :=
  fun c hc => ⟨(hv c hc).1, (hv c hc).2.1⟩

/-- A pattern made of such a value is read to its end. -/
theorem Searchable.beforeNul_pattern {v : String} (hv : Searchable v) (p : Placement) :
    Text.beforeNul (p.pattern (.str v)) = p.around.1.toList ++ (v.toList ++ p.around.2.toList) := by
  have hpattern : (p.pattern (.str v)).toList = p.around.1.toList ++ (v.toList ++ p.around.2.toList) := by
    simp [pattern, Value.text]
  have hnul : ∀ c ∈ p.around.1.toList ++ (v.toList ++ p.around.2.toList), c ≠ '\x00' := by
    have hwildcards : ∀ c ∈ p.around.1.toList ++ p.around.2.toList, c ≠ '\x00' := by
      cases p <;> simp [around]
    intro c hc
    rcases List.mem_append.mp hc with hc | hc
    · exact hwildcards c (List.mem_append_left _ hc)
    · rcases List.mem_append.mp hc with hc | hc
      · exact (hv c hc).2.2
      · exact hwildcards c (List.mem_append_right _ hc)
  rw [Text.beforeNul, hpattern, List.takeWhile_eq_self_iff]
  intro c hc
  exact decide_eq_true (hnul c hc)

/-- **A pattern fits the texts in which its value stands.** -/
theorem like_pattern {v : String} (hv : Searchable v) (p : Placement) (text : String) :
    Text.like (p.pattern (.str v)) text = true ↔
      p.Occurs (Text.folded v.toList) (Text.folded (Text.beforeNul text)) := by
  rw [Text.like, hv.beforeNul_pattern]
  cases p with
  | contains => exact Text.fits_contains hv.literal _
  | startsWith => exact Text.fits_startsWith hv.literal _
  | endsWith =>
      show Text.fits ('%' :: (v.toList ++ [])) _ = true ↔ _
      rw [List.append_nil]
      exact Text.fits_endsWith hv.literal _

end Placement

/-! ## Cells -/

namespace Cell

/-- Whether a cell has a text in which a value stands, letters of either case alike. -/
def Shows (p : Placement) (v : String) (c : Cell) : Prop :=
  ∃ text ∈ c.asText?, p.Occurs (Text.folded v.toList) (Text.folded (Text.beforeNul text))

instance (p : Placement) (v : String) (c : Cell) : Decidable (c.Shows p v) :=
  inferInstanceAs (Decidable (∃ text ∈ c.asText?, _))

theorem asText?_eq_none {c : Cell} : c.asText? = none ↔ c = .null := by
  cases c <;> simp [asText?]

/-- A search is true of the cells that show the value and false of all others with a text. -/
theorem likePattern_eq {v : String} (hv : Placement.Searchable v) (p : Placement) (c : Cell) :
    c.likePattern (p.pattern (.str v)) = if c = .null then .unknown else Truth.ofBool (c.Shows p v) := by
  rw [likePattern]
  cases htext : c.asText? with
  | none => rw [if_pos (asText?_eq_none.mp htext)]
  | some text =>
      have hne : c ≠ .null := by
        intro hnull
        rw [asText?_eq_none.mpr hnull] at htext
        cases htext
      have hfits : Text.like (p.pattern (.str v)) text = decide (c.Shows p v) := by
        rw [Bool.eq_iff_iff, decide_eq_true_eq, Placement.like_pattern hv, Shows, htext]
        simp
      rw [if_neg hne, ← hfits]

theorem not_shows_null (p : Placement) (v : String) : ¬ Cell.null.Shows p v := by
  rintro ⟨text, htext, -⟩
  cases htext

/-- The store finds a value by its pattern where a cell shows it. -/
theorem likePattern_eq_yes {v : String} (hv : Placement.Searchable v) (p : Placement) (c : Cell) :
    c.likePattern (p.pattern (.str v)) = .yes ↔ c.Shows p v := by
  rw [likePattern_eq hv]
  by_cases hnull : c = .null
  · simp [hnull, not_shows_null]
  · by_cases hshows : c.Shows p v <;> simp [hnull, hshows, Truth.ofBool]

/-- It is sure of the opposite where a cell has a value and does not show it. -/
theorem likePattern_eq_no {v : String} (hv : Placement.Searchable v) (p : Placement) (c : Cell) :
    c.likePattern (p.pattern (.str v)) = .no ↔ c ≠ .null ∧ ¬ c.Shows p v := by
  rw [likePattern_eq hv]
  by_cases hnull : c = .null
  · simp [hnull]
  · by_cases hshows : c.Shows p v <;> simp [hnull, hshows, Truth.ofBool]

end Cell

/-! ## Rows -/

namespace Spec

/-- The leaf that searches a field for a value. -/
def search (a : Option String) (field : String) (p : Placement) (v : String) : Spec :=
  .filter a field (.like p (.str v))

section Search

variable {b : Builder} {a : Option String} {under field : String} {s : Source} {col : Column}
  (h : b.field field (effectiveAlias a under) = .ok (s, .column col)) (p : Placement) (v : String)

include h

theorem clause?_search :
    (search a field p v).clause? b under = .ok (some (.like false ⟨s, col⟩ (p.pattern (.str v)))) :=
  clause?_of_column h _

theorem clause?_neg_search :
    (search a field p v).neg.clause? b under = .ok (some (.like true ⟨s, col⟩ (p.pattern (.str v)))) := by
  rw [clause?_neg, clause?_search h]
  rfl

end Search
end Spec

namespace Clause

/-- Every pattern can be bound. -/
theorem binds_like (n : Bool) (ref : ColumnRef) (pattern : String) :
    ∀ q ∈ (Clause.like n ref pattern).parameters, q.Binds := by
  intro q hq
  obtain rfl := List.mem_singleton.mp hq
  exact ⟨_, _, rfl, rfl⟩

variable {v : String} (hv : Placement.Searchable v) (p : Placement) (ref : ColumnRef) {db : Database}
  {group : List Row} {row : Row}

include hv

theorem truth_search :
    truth db group row (.like false ref (p.pattern (.str v))) = .yes ↔ (row.cell ref).Shows p v :=
  Cell.likePattern_eq_yes hv p _

theorem truth_neg_search :
    truth db group row (.like true ref (p.pattern (.str v))) = .yes ↔
      row.cell ref ≠ .null ∧ ¬ (row.cell ref).Shows p v := by
  rw [← Cell.likePattern_eq_no hv p]
  show ((row.cell ref).likePattern _).not = .yes ↔ _
  cases (row.cell ref).likePattern (p.pattern (.str v)) <;> decide

end Clause

/-! ## What is found -/

namespace Repository

variable {repo : Repository} {x : Session}

/-- Those records of a repository that pass a test, as a session shows them. -/
def those (repo : Repository) (x : Session) (keep : Record → Bool) : Except Fault Result :=
  .ok (.list (((x.database.records repo.entity).filter keep).map fun r =>
    .entity repo.entity (x.shownFor repo.entity r)))

/-- A tree that changes nothing finds the records of whose row its condition is true. -/
theorem outcome_of_condition {s : Spec} {c : Clause} (hsession : repo.hasSession = true)
    (hs : s.isRetrieval = true) (hchanges : s.changes repo.rootAlias = [])
    (hclause : s.clause? (Builder.ofEntity repo.entity repo.rootAlias) repo.rootAlias = .ok (some c))
    (hbinds : ∀ p ∈ c.parameters, p.Binds)
    (hkeys : ((x.database.records repo.entity).map Record.key).Nodup) :
    repo.outcome .all (.spec s) none x = repo.those x fun r =>
      (Clause.truth x.database [[(.table repo.entity, some r)]] [(.table repo.entity, some r)] c).holds := by
  have happly : runFrom (Builder.ofEntity repo.entity repo.rootAlias) (s.apply repo.rootAlias) =
      (.ok (), (Builder.ofEntity repo.entity repo.rootAlias).changed fun st =>
        st.addOptional Statement.addCondition c) :=
    Spec.run_apply_eq_ok.mpr ⟨_, _, by rw [hchanges]; rfl, hclause, rfl⟩
  -- The statement has one condition, so that its parameters are those of the condition.
  have hvalues : ((Builder.ofEntity repo.entity repo.rootAlias).changed fun st =>
      st.addOptional Statement.addCondition c).statement.BindsAll := by
    refine exists_bindAll_iff.mpr fun p hp => hbinds p ?_
    rw [Statement.boundParameters_eq, bound_layConditions, bound_layConditions] at hp
    simpa [Builder.changed, Builder.ofEntity, Builder.start, Statement.addOptional, Statement.addCondition,
      Statement.ofEntity, Clause.parametersOf, layPaging] using hp
  -- A tree that accepts a row is one whose condition is true of it.
  have haccepts : ∀ r, s.accepts (Relationship.asked x.database [(.table repo.entity, some r)])
      (Builder.ofEntity repo.entity repo.rootAlias).aliases [(.table repo.entity, some r)] repo.rootAlias =
        (Clause.truth x.database [[(.table repo.entity, some r)]] [(.table repo.entity, some r)] c).holds := by
    intro r
    have hholds : (Clause.truthAll x.database [[(.table repo.entity, some r)]] [(.table repo.entity, some r)]
        (some c).toList).holds = _ := holds_of_clause? hs hclause
    rw [← hholds, Clause.truthAll_eq]
    exact congrArg Truth.holds (Truth.all_singleton _)
  rw [outcome_of_noJoins hsession hs happly rfl rfl hvalues hkeys]
  exact congrArg (repo.those x) (funext haccepts)

/-- What a search for a value in texts means. -/
structure FindsTexts (p : Placement) (v : String) : Prop where
  /-- The store is given the format of the search with the value put in as it is. -/
  pattern : Text.filled [v.toList] p.format.toList = some (p.pattern (.str v)).toList
  /-- Where a field is a column, the search is true of the rows on which the column shows the value, and its negation
  of those on which the column has a value and does not show it. -/
  onRows : ∀ (b : Builder) (a : Option String) (under field : String) (s : Source) (col : Column),
    b.field field (effectiveAlias a under) = .ok (s, .column col) →
      ∀ (db : Database) (group : List Row) (row : Row),
        ((Spec.search a field p v).HoldsOn b under db group row ↔ (row.cell ⟨s, col⟩).Shows p v) ∧
          ((Spec.search a field p v).neg.HoldsOn b under db group row ↔
            row.cell ⟨s, col⟩ ≠ .null ∧ ¬ (row.cell ⟨s, col⟩).Shows p v)
  /-- A repository finds exactly those records. -/
  inRepository : ∀ (repo : Repository) (x : Session) (col : Column), repo.hasSession = true →
    ((x.database.records repo.entity).map Record.key).Nodup → col ∈ repo.entity.columns →
      (repo.outcome .all (.spec (Spec.search none col.name p v)) none x =
          repo.those x fun r => (r.cell repo.entity col.name).Shows p v) ∧
        repo.outcome .all (.spec (Spec.search none col.name p v).neg) none x =
          repo.those x fun r => r.cell repo.entity col.name ≠ .null ∧ ¬ (r.cell repo.entity col.name).Shows p v

/-- **A search finds the texts in which its value stands**, and its negation the other texts. Patterns of any length
are taken here; the database itself refuses those of more than 50000 bytes. -/
theorem search_finds_texts (p : Placement) (v : String) (hv : Placement.Searchable v) : FindsTexts p v where
  pattern := p.filled_format (.str v)
  onRows := by
    intro b a under field s col hfield db group row
    have hsearch := Spec.clause?_search hfield p v
    have hneg := Spec.clause?_neg_search hfield p v
    rw [Spec.holdsOn_of_clause? hsearch, Spec.holdsOn_of_clause? hneg]
    exact ⟨Clause.truth_search hv p _, Clause.truth_neg_search hv p _⟩
  inRepository := by
    intro repo x col hsession hkeys hcol
    have hfield : (Builder.ofEntity repo.entity repo.rootAlias).field col.name repo.rootAlias =
        .ok (.table repo.entity, .column col) :=
      Builder.field_eq_ok.mpr ⟨by simp [Builder.ofEntity, Builder.start], Spec.field?_of_mem_columns hcol⟩
    have hrow : ∀ r : Record, Row.cell [(.table repo.entity, some r)] ⟨.table repo.entity, col⟩ =
        r.cell repo.entity col.name := by
      intro r
      simp [Row.cell, Row.record?, Source.entity]
    constructor
    · rw [outcome_of_condition hsession rfl rfl (Spec.clause?_search hfield p v) (Clause.binds_like _ _ _) hkeys]
      refine congrArg (repo.those x) (funext fun r => ?_)
      rw [Bool.eq_iff_iff, Truth.holds_eq_true, Clause.truth_search hv, hrow, decide_eq_true_eq]
    · rw [outcome_of_condition hsession rfl rfl (Spec.clause?_neg_search hfield p v)
        (Clause.binds_like _ _ _) hkeys]
      refine congrArg (repo.those x) (funext fun r => ?_)
      rw [Bool.eq_iff_iff, Truth.holds_eq_true, Clause.truth_neg_search hv, hrow, decide_eq_true_eq]

/-- Of the two users with an address one has it from `A` on; those without are neither found nor among the others. -/
theorem addresses_from_a_found :
    let alice : Record := [.int 1, .text "Alice", .text "admin", .int 30, .ofBool true, .text "alice@example.com",
      Database.stamp "2024-05-01T09:30:00"]
    let charlie : Record := [.int 3, .text "Charlie", .text "admin", .int 40, .ofBool false,
      .text "charlie@example.com", Database.stamp "2024-05-01T11:45:00"]
    let users (s : Spec) : Except Fault Result :=
      ({ entity := .user } : Repository).outcome .all (.spec s) none { database := .sample }
    Placement.Searchable "A" ∧
      users (Spec.search none "email" .startsWith "A") = .ok (.list [.entity .user alice]) ∧
      users (Spec.search none "email" .startsWith "A").neg = .ok (.list [.entity .user charlie]) := by
  intro alice charlie users
  have hvalue : Placement.Searchable "A" := by decide
  have hkeys : ((Database.sample.records .user).map Record.key).Nodup := by decide +kernel
  obtain ⟨hfound, hothers⟩ := (search_finds_texts .startsWith "A" hvalue).inRepository { entity := .user }
    { database := .sample } ⟨"email", .text⟩ rfl hkeys (by decide)
  have hshown : ((Database.sample.records .user).filter fun r =>
      (r.cell .user "email").Shows .startsWith "A") = [alice] := by decide +kernel
  have hrest : ((Database.sample.records .user).filter fun r =>
      r.cell .user "email" ≠ .null ∧ ¬ (r.cell .user "email").Shows .startsWith "A") = [charlie] := by
    decide +kernel
  refine ⟨hvalue, hfound.trans ?_, hothers.trans ?_⟩
  · rw [those, hshown]
    rfl
  · rw [those, hrest]
    rfl

/-- A user whose name has a NUL before its `b` is not found by the `b`, but among the others. -/
theorem behind_nul_not_found :
    let user : Record := [.int 1, .text "a\x00b", .text "user", .int 30, .ofBool true, .null,
      Database.stamp "2024-05-01T09:30:00"]
    let users (s : Spec) : Except Fault Result :=
      ({ entity := .user } : Repository).outcome .all (.spec s) none { database := { users := [user], posts := [] } }
    Placement.contains.Occurs (Text.folded "b".toList) (Text.folded "a\x00b".toList) ∧
      users (Spec.search none "name" .contains "b") = .ok (.list []) ∧
      users (Spec.search none "name" .contains "b").neg = .ok (.list [.entity .user user]) := by
  intro user users
  have hfield : (Builder.ofEntity .user "e").field "name" "e" = .ok (.table .user, .column ⟨"name", .text⟩) := rfl
  have hfound : users (Spec.search none "name" .contains "b") = _ := outcome_of_condition rfl rfl rfl
    (Spec.clause?_search hfield .contains "b") (Clause.binds_like _ _ _) (by decide)
  have hothers : users (Spec.search none "name" .contains "b").neg = _ := outcome_of_condition rfl rfl rfl
    (Spec.clause?_neg_search hfield .contains "b") (Clause.binds_like _ _ _) (by decide)
  exact ⟨by decide, hfound.trans rfl, hothers.trans rfl⟩

end Repository
end Criteria
