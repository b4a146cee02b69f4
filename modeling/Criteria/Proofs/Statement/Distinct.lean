import Criteria.Proofs.Statement.Trees

/-!
# Distinct names

A column is ambiguous only if two sources of a statement have the same name. The converse holds of a
statement that selects the columns of its root: where two of its sources have the same name, one of the
columns that it selects or joins by is ambiguous, since every entity has a key, and every join names one on
either side (`exists_isAmbiguous`).
-/

namespace Criteria

/-- Whether no two of some sources have the same name. -/
def DistinctNames (sources : List Source) : Prop :=
  sources.Pairwise fun s t => sameName s.name t.name = false

instance (sources : List Source) : Decidable (DistinctNames sources) :=
  inferInstanceAs (Decidable (sources.Pairwise _))

theorem sameName_comm (s t : String) : sameName s t = sameName t s := Bool.beq_comm

theorem sameName_trans {s t u : String} (hst : sameName s t = true) (htu : sameName t u = true) :
    sameName s u = true := by
  unfold sameName at *
  simp_all

@[simp] theorem sameName_self (s : String) : sameName s s = true := by simp [sameName]

/-! ## No column is ambiguous -/

/-- Where names are distinct, at most one source answers to a name. -/
theorem not_isAmbiguous {sources : List Source} (h : DistinctNames sources) (c : ColumnRef) :
    c.isAmbiguous sources = false := by
  have hanswers : (sources.filter fun s => s.answers c).Pairwise
      fun s t => sameName s.name t.name = false := List.Pairwise.filter _ h
  unfold ColumnRef.isAmbiguous
  match hfilter : sources.filter fun s => s.answers c with
  | [] | [_] => simp [hfilter]
  | s :: t :: rest =>
      -- Two that answer to the column would both have its name.
      have hall : ∀ x ∈ s :: t :: rest, x.answers c = true := by
        intro x hx
        rw [← hfilter] at hx
        exact (List.mem_filter.mp hx).2
      have hs := hall s List.mem_cons_self
      have ht := hall t (List.mem_cons_of_mem _ List.mem_cons_self)
      have hne : sameName s.name t.name = false := by
        rw [hfilter] at hanswers
        exact List.rel_of_pairwise_cons hanswers List.mem_cons_self
      simp only [Source.answers, Bool.and_eq_true] at hs ht
      have hsame := sameName_trans hs.1 (sameName_comm _ _ ▸ ht.1)
      rw [hne] at hsame
      cases hsame

/-! ## Some column is ambiguous -/

/-- Two sources of one name make a column ambiguous that both have. -/
theorem isAmbiguous_of_sublist {sources : List Source} {s t : Source} {c : ColumnRef}
    (h : [s, t].Sublist sources) (hs : s.answers c = true) (ht : t.answers c = true) :
    c.isAmbiguous sources = true := by
  have hsub := h.filter fun x => x.answers c
  have hboth : [s, t].filter (fun x => x.answers c) = [s, t] := by simp [hs, ht]
  rw [hboth] at hsub
  have hlen := hsub.length_le
  simp only [List.length_cons, List.length_nil] at hlen
  simp only [ColumnRef.isAmbiguous, decide_eq_true_eq]
  omega

/-- The column by which a joined entity is found: the key of a user, or the author of a post. -/
def Entity.joinKey : Entity → Column
  | .user => userKey
  | .post => authorKey

theorem isSome_column?_joinKey (e : Entity) : (e.column? e.joinKey.name).isSome = true := by
  cases e <;> decide

theorem isSome_column?_userKey (e : Entity) : (e.column? userKey.name).isSome = true := by
  cases e <;> decide

theorem answers_own {s : Source} {c : Column} (h : (s.entity.column? c.name).isSome = true) :
    s.answers ⟨s, c⟩ = true := by
  simp [Source.answers, h]

theorem answers_other {s t : Source} {c : Column} (hname : sameName s.name t.name = true)
    (h : (s.entity.column? c.name).isSome = true) : s.answers ⟨t, c⟩ = true := by
  simp [Source.answers, hname, h]

/-- Linked joins name the join key of everything they lead to. -/
theorem joinKey_mem_columns {root t : Source} {joins : List JoinStep} (h : Linked root joins)
    (ht : t ∈ joins.map (·.target)) :
    (⟨t, t.entity.joinKey⟩ : ColumnRef) ∈ joins.flatMap JoinStep.columns := by
  induction h with
  | nil => simp at ht
  | @snoc js left r name outer before start owner fresh ih =>
      rw [List.map_append, List.mem_append] at ht
      rw [List.flatMap_append, List.mem_append]
      rcases ht with ht | ht
      · exact .inl (ih ht)
      · right
        obtain rfl : t = .joined name r.target := by simpa using ht
        cases r <;> simp [JoinStep.columns, Relationship.keys, Relationship.target, Entity.joinKey,
          Source.entity]

/-- Where two sources of linked joins have the same name, a key of the root or one that a join names is
ambiguous. -/
theorem exists_isAmbiguous {root : Source} {joins : List JoinStep} (h : Linked root joins)
    (hclash : ¬ DistinctNames (root :: joins.map (·.target))) :
    ∃ c ∈ ⟨root, userKey⟩ :: joins.flatMap JoinStep.columns,
      c.isAmbiguous (root :: joins.map (·.target)) = true := by
  obtain ⟨s, t, hsub, hname⟩ : ∃ s t, [s, t].Sublist (root :: joins.map (·.target)) ∧
      sameName s.name t.name = true := by
    simpa [DistinctNames, List.pairwise_iff_forall_sublist] using hclash
  have hname' : sameName t.name s.name = true := sameName_comm _ _ ▸ hname
  have ht : t ∈ joins.map (·.target) := by
    cases hsub with
    | cons _ hsub => exact hsub.subset (by simp)
    | cons_cons _ hsub => exact hsub.subset (by simp)
  -- A column that one of the two is named by, and that the other has as well.
  have hcolumn : ∃ c ∈ ⟨root, userKey⟩ :: joins.flatMap JoinStep.columns,
      s.answers c = true ∧ t.answers c = true := by
    rcases List.mem_cons.mp (hsub.subset List.mem_cons_self) with rfl | hs
    · exact ⟨⟨s, userKey⟩, List.mem_cons_self, answers_own (isSome_column?_userKey _),
        answers_other hname' (isSome_column?_userKey _)⟩
    · have hskey := joinKey_mem_columns h hs
      have htkey := joinKey_mem_columns h ht
      by_cases hboth : (s.entity.column? t.entity.joinKey.name).isSome = true
      · exact ⟨_, List.mem_cons_of_mem _ htkey, answers_other hname hboth,
          answers_own (isSome_column?_joinKey _)⟩
      · refine ⟨_, List.mem_cons_of_mem _ hskey, answers_own (isSome_column?_joinKey _),
          answers_other hname' ?_⟩
        -- Only users do not have the join key of a post; theirs is the key of posts, too.
        revert hboth
        cases s.entity <;> cases t.entity <;> decide
  obtain ⟨c, hc, hs, ht⟩ := hcolumn
  exact ⟨c, hc, isAmbiguous_of_sublist hsub hs ht⟩

end Criteria
