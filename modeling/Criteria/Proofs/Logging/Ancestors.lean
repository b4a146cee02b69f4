import Criteria.Logging

/-!
# Names above a name

The names above a logger's name are beginnings of it that end before a dot, the nearest first
(`exists_of_mem_ancestors`, `pairwise_ancestors`). What is above one of them stands behind it in the list
(`eq_ancestors_of_append`); names that end with a dot are the exception, since the walk upwards skips one of two dots.
-/

namespace Criteria.Loggers

/-! ## Names read backwards -/

/-- A name above another one is what follows a dot of it, both read backwards. -/
theorem exists_of_mem_above {cs q : List Char} (h : q ∈ above cs) : ∃ s, cs = s ++ '.' :: q := by
  induction cs using above.induct with
  | case1 | case2 => cases h
  | case3 d rest ih =>
      rw [above, if_pos rfl] at h
      rcases List.mem_cons.mp h with rfl | h
      · exact ⟨[], rfl⟩
      · obtain ⟨s, rfl⟩ := ih h
        exact ⟨'.' :: d :: s, rfl⟩
  | case4 c d rest hc ih =>
      rw [above, if_neg hc] at h
      obtain ⟨s, hs⟩ := ih h
      exact ⟨c :: s, by rw [hs]; rfl⟩

theorem length_lt_of_mem_above {cs q : List Char} (h : q ∈ above cs) : q.length < cs.length := by
  obtain ⟨s, rfl⟩ := exists_of_mem_above h
  simp only [List.length_append, List.length_cons]
  omega

/-- The names above a name get shorter on the way up. -/
theorem pairwise_above (cs : List Char) : (above cs).Pairwise fun p q => q.length < p.length := by
  induction cs using above.induct with
  | case1 | case2 => exact .nil
  | case3 d rest ih =>
      rw [above, if_pos rfl]
      refine .cons (fun q hq => ?_) ih
      exact Nat.lt_succ_of_lt (length_lt_of_mem_above hq)
  | case4 c d rest hc ih =>
      rw [above, if_neg hc]
      exact ih

/-- Behind a name that does not end with a dot stand the names above it. -/
theorem eq_above_of_append {cs q : List Char} {nearer rest : List (List Char)}
    (h : above cs = nearer ++ q :: rest) (hdot : q.head? ≠ some '.') : rest = above q := by
  induction cs using above.induct generalizing nearer with
  | case1 | case2 => simp [above] at h
  | case3 d tail ih =>
      rw [above, if_pos rfl] at h
      cases nearer with
      | nil =>
          obtain ⟨rfl, rfl⟩ := List.cons.inj h
          -- The character skipped is no dot, so that nothing is lost by skipping it.
          cases tail with
          | nil => rfl
          | cons e tail =>
              rw [above, if_neg]
              intro hd
              exact hdot (congrArg some hd)
      | cons p nearer => exact ih (List.cons.inj h).2
  | case4 c d tail hc ih =>
      rw [above, if_neg hc] at h
      exact ih h

/-! ## Names -/

/-- A name above another is followed by a dot in it. -/
theorem exists_of_mem_ancestors {a name : String} (h : a ∈ ancestors name) :
    ∃ s, name.toList = a.toList ++ '.' :: s := by
  obtain ⟨q, hq, rfl⟩ := List.mem_map.mp h
  obtain ⟨s, hs⟩ := exists_of_mem_above hq
  refine ⟨s.reverse, ?_⟩
  rw [← List.reverse_reverse name.toList, hs]
  simp

theorem length_lt_of_mem_ancestors {a name : String} (h : a ∈ ancestors name) :
    a.toList.length < name.toList.length := by
  obtain ⟨s, hs⟩ := exists_of_mem_ancestors h
  rw [hs, List.length_append, List.length_cons]
  omega

theorem pairwise_ancestors (name : String) :
    (ancestors name).Pairwise fun a b => b.toList.length < a.toList.length := by
  rw [ancestors, List.pairwise_map]
  refine (pairwise_above _).imp fun {p q} h => ?_
  simpa using h

/-- Behind a name that does not end with a dot stand the names above it. -/
theorem eq_ancestors_of_append {a name : String} {nearer rest : List String}
    (h : ancestors name = nearer ++ a :: rest) (hdot : a.toList.getLast? ≠ some '.') : rest = ancestors a := by
  obtain ⟨before, behind, hsplit, rfl, hbehind⟩ := List.map_eq_append_iff.mp h
  obtain ⟨q, last, rfl, rfl, rfl⟩ := List.map_eq_cons_iff.mp hbehind
  have hlast : q.head? ≠ some '.' := by
    simpa [List.getLast?_reverse] using hdot
  rw [eq_above_of_append hsplit hlast, ancestors]
  simp

/-- The same for the way upwards that starts with the name itself. -/
theorem eq_ancestors_of_way {a name : String} {nearer rest : List String}
    (h : name :: ancestors name = nearer ++ a :: rest) (hdot : a.toList.getLast? ≠ some '.') :
    rest = ancestors a := by
  cases nearer with
  | nil =>
      obtain ⟨rfl, rfl⟩ := List.cons.inj h
      rfl
  | cons b nearer => exact eq_ancestors_of_append (List.cons.inj h).2 hdot

end Criteria.Loggers
