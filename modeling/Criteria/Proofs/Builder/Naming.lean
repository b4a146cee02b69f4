import Criteria.Proofs.Builder.History
import Criteria.Proofs.Spec.NormalForm
import Criteria.Proofs.Spec.Retrieval

/-!
# The names of joined tables

A builder accepts a join under an alias that it does not know yet. It compares aliases with aliases, letter by
letter, while the database is given names: the table of the root under its own name and each joined table under its
alias, and it does not tell capitals from small letters. So the names of accepted joins are distinct exactly if no
alias is like the root's table and no two aliases are alike. If they are, no column is ambiguous, and else every run
of the statement is refused (`Builder.names_of_joins`).
-/

namespace Criteria

/-- The change that a join is. -/
def JoinMade.change (m : JoinMade) : Change :=
  .join (if m.outer then .left else .join) m.under m.field m.newAlias

theorem JoinMade.step_change (m : JoinMade) :
    m.change.step = Builder.join m.field m.newAlias m.under m.outer := by
  rcases m with ⟨under, field, newAlias, outer⟩
  cases outer <;> rfl

theorem isRetrieval_of_mem_map_change {ms : List JoinMade} {c : Change} (hc : c ∈ ms.map JoinMade.change) :
    c.isRetrieval = true := by
  obtain ⟨m, -, rfl⟩ := List.mem_map.mp hc
  rfl

namespace Builder

/-- The steps that make joins, one after another. -/
def joinAll (ms : List JoinMade) : Building Unit :=
  ms.forM fun m => Builder.join m.field m.newAlias m.under m.outer

/-- Joins called one after another are made as the changes that they are. -/
theorem run_joinAll (b : Builder) (ms : List JoinMade) :
    runFrom b (joinAll ms) = Change.applyAll b (ms.map JoinMade.change) := by
  have hsteps : joinAll ms = Change.steps (ms.map JoinMade.change) := by
    induction ms with
    | nil => rfl
    | cons m rest ih =>
        rw [List.map_cons, Change.steps_cons, ← ih, m.step_change]
        rfl
  rw [hsteps, Change.run_steps]

/-! ## What accepted joins leave -/

/-- Each accepted join adds its alias to the names of what is joined. -/
theorem names_of_applyAll {b b' : Builder} {ms : List JoinMade}
    (h : Change.applyAll b (ms.map JoinMade.change) = (.ok (), b')) :
    b'.statement.joins.map (fun j => j.target.name) =
      b.statement.joins.map (fun j => j.target.name) ++ ms.map JoinMade.newAlias := by
  induction ms generalizing b with
  | nil =>
      cases h
      exact (List.append_nil _).symm
  | cons m rest ih =>
      obtain ⟨b₁, hfirst, hrest⟩ := Change.applyAll_cons_eq_ok.mp h
      obtain ⟨j, hj, rfl⟩ := map_eq_ok.mp hfirst
      obtain ⟨-, s, r, -, -, rfl⟩ := joinStep_eq_ok.mp hj
      rw [ih hrest]
      simp [afterJoin, Statement.addJoin, Source.name]

section Accepted

variable {root : Entity} {rootAlias : String} {ms : List JoinMade} {b : Builder}
  (h : runFrom (ofEntity root rootAlias) (joinAll ms) = (.ok (), b))

include h

theorem extends_of_joinAll : (ofEntity root rootAlias).Extends b := by
  rw [run_joinAll] at h
  exact Change.extends_of_applyAll (fun _ => isRetrieval_of_mem_map_change) h

theorem inStep_of_joinAll : b.InStep := by
  rw [run_joinAll] at h
  exact Change.applyAll_inStep h (ofEntity_inStep root rootAlias)

theorem newAliases_of_joinAll : b.statement.joins.map (fun j => j.target.name) = ms.map JoinMade.newAlias := by
  rw [run_joinAll] at h
  exact names_of_applyAll h

/-- Accepted joins make a statement that retrieves the entities of the root. -/
theorem retrieves_of_joinAll : b.statement.Retrieves root := by
  have hext := extends_of_joinAll h
  have hroot : b.root = root := hext.root
  have hconditions : b.statement.conditions = [] := congrArg Statement.conditions hext.statement
  refine ⟨?_, hroot ▸ (inStep_of_joinAll h).linked, ?_⟩
  · rw [hconditions]
    exact hext.statement
  · rw [hconditions]
    exact fun _ => List.not_mem_nil.elim

/-- There are no values in a statement of joins alone. -/
theorem bindsAll_of_joinAll : b.statement.BindsAll := by
  refine ⟨[], ?_⟩
  rw [Statement.boundParameters_eq, (extends_of_joinAll h).statement]
  rfl

end Accepted

/-! ## Names -/

/-- Whether names are all different to the database: no alias is like the table of the root, and no two aliases are
alike. -/
def ApartFrom (root : Entity) (aliases : List String) : Prop :=
  (∀ a ∈ aliases, sameName root.table a = false) ∧ aliases.Pairwise fun a a' => sameName a a' = false

/-- Sources have distinct names if their names are apart. -/
theorem distinctNames_iff {root : Entity} {sources : List Source} {aliases : List String}
    (h : sources.map Source.name = root.table :: aliases) :
    DistinctNames sources ↔ ApartFrom root aliases := by
  rw [DistinctNames, ← List.pairwise_map (f := Source.name) (R := fun s t => sameName s t = false), h,
    List.pairwise_cons, ApartFrom]

/-- What a builder tells of the joins that it has accepted, and the database of its statement. -/
structure Named (b : Builder) (root : Entity) (rootAlias : String) (aliases : List String) : Prop where
  /-- The aliases of the builder are that of the root and those of the joins, all of them different letter by
  letter. -/
  registered : b.aliases.map (·.1) = rootAlias :: aliases
  once : (rootAlias :: aliases).Nodup
  /-- The statement selects from the table of the root, under its own name, and from what is joined, under the
  aliases of the joins. -/
  rooted : b.statement.trees = [⟨.table root, b.statement.joins⟩]
  rendered : b.statement.sources.map Source.name = root.table :: aliases
  /-- Where the names are apart, no column can be ambiguous, and the statement runs. -/
  clear : ApartFrom root aliases →
    (∀ c : ColumnRef, c.isAmbiguous b.statement.sources = false) ∧
      ∀ db, b.statement.run db = .ok (b.statement.results db)
  /-- Where they are not, the database refuses the statement for an ambiguous column. -/
  ambiguous : ¬ ApartFrom root aliases →
    ∀ db, ∃ c : ColumnRef, b.statement.run db = .error (.ambiguousColumn c.source.name c.column.name)

/-- **The names of accepted joins.** Whatever the root, its alias and the joins that are accepted, the aliases are
different to the builder. They are different to the database as well, in which case the statement runs, exactly
if no new alias is like the table of the root and no two of them are alike; otherwise some column is ambiguous.
`Statement.check` says which limits of the database are left aside here. -/
theorem names_of_joins (root : Entity) (rootAlias : String) (ms : List JoinMade) (b : Builder)
    (h : runFrom (ofEntity root rootAlias) (joinAll ms) = (.ok (), b)) :
    b.Named root rootAlias (ms.map JoinMade.newAlias) := by
  have hext := extends_of_joinAll h
  have hstep := inStep_of_joinAll h
  have hretrieves := retrieves_of_joinAll h
  have hvalues := bindsAll_of_joinAll h
  have hregistered : b.aliases.map (·.1) = rootAlias :: ms.map JoinMade.newAlias := by
    rw [hstep.aliases, List.map_cons, List.map_map, ← newAliases_of_joinAll h, hext.rootAlias]
    rfl
  have hrendered : b.statement.sources.map Source.name = root.table :: ms.map JoinMade.newAlias := by
    rw [hretrieves.sources_eq, List.map_cons, List.map_map, ← newAliases_of_joinAll h]
    rfl
  have hdistinct : DistinctNames (.table root :: b.statement.joins.map (·.target)) ↔
      ApartFrom root (ms.map JoinMade.newAlias) := by
    rw [← hretrieves.sources_eq]
    exact distinctNames_iff hrendered
  refine ⟨hregistered, hregistered ▸ hstep.fresh, hretrieves.rooted.trees_eq, hrendered, ?_, ?_⟩
  · -- With distinct names no column is ambiguous, and the statement runs.
    intro hapart
    have hnames := hdistinct.mpr hapart
    constructor
    · intro c
      rw [hretrieves.sources_eq]
      exact not_isAmbiguous hnames c
    · intro db
      exact hretrieves.run_of_distinctNames db hvalues hnames
  · -- A clash shows in a column that a join needs.
    intro hclash db
    apply hretrieves.run_of_clash db hvalues
    rw [hdistinct]
    exact hclash

/-- Posts can be joined under the name of the users' table, and posts and their authors under names that differ in
a capital: the builder accepts both, and the database neither. -/
theorem accepted_names_refused :
    let asUsers : List JoinMade := [⟨"e", "posts", "users", false⟩]
    let byCapital : List JoinMade := [⟨"e", "posts", "p", false⟩, ⟨"p", "author", "P", false⟩]
    ∀ ms ∈ [asUsers, byCapital], ∃ b, runFrom (ofEntity .user "e") (joinAll ms) = (.ok (), b) ∧
      ∀ db, ∃ c : ColumnRef, b.statement.run db = .error (.ambiguousColumn c.source.name c.column.name) := by
  intro asUsers byCapital ms hms
  obtain rfl | rfl : ms = asUsers ∨ ms = byCapital := by simpa using hms
  · refine ⟨_, rfl, (names_of_joins .user "e" asUsers _ rfl).ambiguous ?_⟩
    intro hapart
    have htable : sameName "users" "users" = false := hapart.1 "users" List.mem_cons_self
    rw [sameName_self] at htable
    cases htable
  · refine ⟨_, rfl, (names_of_joins .user "e" byCapital _ rfl).ambiguous ?_⟩
    intro hapart
    have hdiffer : sameName "p" "P" = false := List.rel_of_pairwise_cons hapart.2 List.mem_cons_self
    have hcapital : sameName "p" "P" = true := by
      rw [sameName, beq_iff_eq, ← String.toList_inj, String.toList_map, String.toList_map]
      decide
    rw [hcapital] at hdiffer
    cases hdiffer

end Builder
end Criteria
