import Criteria.Settings.Layer

/-!
# Keys of sections

The keys of a section are looked up by texts. A value is well keyed if no section of it that a path of texts can
reach has a text twice among its keys; setting a key and adding one that is missing keep it so.
-/

namespace Criteria

namespace Value

/-! ## Keys -/

theorem sameKey_str {k : Value} {n : String} : k.sameKey (.str n) = true ↔ k = .str n := by
  cases k <;> simp [sameKey, sameNumber?, wholeNumber?]

theorem str_sameKey {k : Value} {n : String} : Value.sameKey (.str n) k = true ↔ k = .str n := by
  cases k with
  | str m => simpa [sameKey, sameNumber?, wholeNumber?] using eq_comm
  | _ => simp [sameKey, sameNumber?, wholeNumber?]

theorem lookupKey_cons (k v : Value) (rest : Entries) (n : String) :
    lookupKey ((k, v) :: rest) n = if k.sameKey (.str n) then some v else lookupKey rest n := by
  simp only [lookupKey, List.find?_cons]
  cases k.sameKey (.str n) <;> rfl

@[simp] theorem lookupKey_insertEntry_self (es : Entries) (n : String) (v : Value) :
    lookupKey (insertEntry es (.str n) v) n = some v := by
  induction es with
  | nil => simp [insertEntry, lookupKey_cons, sameKey_str]
  | cons e rest ih =>
      obtain ⟨k, w⟩ := e
      simp only [insertEntry]
      split
      · rename_i hk
        rw [lookupKey_cons, if_pos hk]
      · rename_i hk
        rw [lookupKey_cons, if_neg hk, ih]

/-- Setting a key leaves the others alone. -/
theorem lookupKey_insertEntry_of_ne (es : Entries) {k : Value} {n : String} (v : Value)
    (hne : k ≠ .str n) : lookupKey (insertEntry es k v) n = lookupKey es n := by
  induction es with
  | nil => simp [insertEntry, sameKey_str, hne, lookupKey]
  | cons e rest ih =>
      obtain ⟨k', w⟩ := e
      simp only [insertEntry]
      split
      · rename_i hk
        have hother : ¬k'.sameKey (.str n) := by
          intro h
          rw [sameKey_str.mp h] at hk
          exact hne (str_sameKey.mp hk)
        rw [lookupKey_cons, lookupKey_cons, if_neg hother, if_neg hother]
      · rw [lookupKey_cons, lookupKey_cons, ih]

end Value

namespace Entries

open Value (lookupKey insertEntry)

/-- The texts among the keys. -/
def names (es : Entries) : List String :=
  es.filterMap fun e =>
    match e.1 with
    | .str n => some n
    | _ => none

theorem mem_names {es : Entries} {n : String} : n ∈ names es ↔ ∃ v, (Value.str n, v) ∈ es := by
  simp only [names, List.mem_filterMap]
  constructor
  · rintro ⟨⟨k, v⟩, he, hk⟩
    cases k <;> simp at hk
    subst hk
    exact ⟨v, he⟩
  · rintro ⟨v, hv⟩
    exact ⟨_, hv, rfl⟩

theorem lookupKey_eq_none {es : Entries} {n : String} : lookupKey es n = none ↔ n ∉ names es := by
  rw [mem_names]
  simp only [lookupKey, Option.map_eq_none_iff, List.find?_eq_none, Value.sameKey_str]
  constructor
  · rintro h ⟨v, hv⟩
    exact h _ hv rfl
  · rintro h ⟨k, v⟩ he rfl
    exact h ⟨v, he⟩

theorem mem_of_lookupKey {es : Entries} {n : String} {v : Value} (h : lookupKey es n = some v) :
    (.str n, v) ∈ es := by
  obtain ⟨⟨k, w⟩, hfind, rfl⟩ := Option.map_eq_some_iff.mp h
  have hk : k = .str n := Value.sameKey_str.mp (by simpa using List.find?_some hfind)
  subst hk
  exact List.mem_of_find?_eq_some hfind

end Entries

namespace Value

/-! ## Setting keys -/

theorem mem_insertEntry {es : Entries} {k v : Value} {e : Value × Value} (h : e ∈ insertEntry es k v) :
    e.2 = v ∨ e ∈ es := by
  induction es with
  | nil => simp_all [insertEntry]
  | cons e' rest ih =>
      obtain ⟨k', w⟩ := e'
      simp only [insertEntry] at h
      split at h
      · rcases List.mem_cons.mp h with rfl | h
        · exact .inl rfl
        · exact .inr (List.mem_cons_of_mem _ h)
      · rcases List.mem_cons.mp h with rfl | h
        · exact .inr List.mem_cons_self
        · exact (ih h).imp_right (List.mem_cons_of_mem _)

theorem mem_names_insertEntry {es : Entries} {k v : Value} {n : String}
    (h : n ∈ Entries.names (insertEntry es k v)) : k = .str n ∨ n ∈ Entries.names es := by
  by_cases hk : k = .str n
  · exact .inl hk
  · right
    by_cases hn : n ∈ Entries.names es
    · exact hn
    · rw [← Entries.lookupKey_eq_none, ← lookupKey_insertEntry_of_ne es v hk] at hn
      exact absurd h (Entries.lookupKey_eq_none.mp hn)

/-- Setting a key gives it once, whether or not it was there. -/
theorem nodup_names_insertEntry {es : Entries} (h : (Entries.names es).Nodup) (k v : Value) :
    (Entries.names (insertEntry es k v)).Nodup := by
  induction es with
  | nil => cases k <;> simp [insertEntry, Entries.names]
  | cons e rest ih =>
      obtain ⟨k', w⟩ := e
      simp only [insertEntry]
      split
      · exact h
      · rename_i hk
        cases k' with
        | str m =>
            obtain ⟨hm, hrest⟩ := List.nodup_cons.mp h
            refine List.nodup_cons.mpr ⟨fun hmem => ?_, ih hrest⟩
            rcases mem_names_insertEntry hmem with rfl | hmem
            · exact hk (str_sameKey.mpr rfl)
            · exact hm hmem
        | _ => exact ih h

/-! ## Well-keyed values -/

/-- No section of a value that a path can reach has a text twice among its keys. -/
inductive WellKeyed : Value → Prop where
  | map {es : Entries} (names : (Entries.names es).Nodup) (values : ∀ e ∈ es, WellKeyed e.2) :
      WellKeyed (.map es)
  | leaf {v : Value} (h : ∀ es, v ≠ .map es) : WellKeyed v

theorem wellKeyed_map {es : Entries} :
    WellKeyed (.map es) ↔ (Entries.names es).Nodup ∧ ∀ e ∈ es, e.2.WellKeyed := by
  constructor
  · rintro (⟨hnames, hvalues⟩ | h)
    · exact ⟨hnames, hvalues⟩
    · exact absurd rfl (h es)
  · rintro ⟨hnames, hvalues⟩
    exact .map hnames hvalues

theorem wellKeyed_empty : WellKeyed (.map []) := .map List.nodup_nil (by simp)

@[simp] theorem wellKeyed_str (s : String) : WellKeyed (.str s) := .leaf nofun

@[simp] theorem wellKeyed_bool (b : Bool) : WellKeyed (.bool b) := .leaf nofun

theorem WellKeyed.of_lookupKey {es : Entries} (h : WellKeyed (.map es)) {n : String} {v : Value}
    (hv : lookupKey es n = some v) : v.WellKeyed :=
  (wellKeyed_map.mp h).2 _ (Entries.mem_of_lookupKey hv)

/-- Setting a key to a well-keyed value keeps a section well keyed. -/
theorem WellKeyed.insertEntry {es : Entries} (h : WellKeyed (.map es)) (k : Value) {v : Value}
    (hv : v.WellKeyed) : WellKeyed (.map (insertEntry es k v)) := by
  obtain ⟨hnames, hvalues⟩ := wellKeyed_map.mp h
  refine .map (nodup_names_insertEntry hnames k v) fun e he => ?_
  rcases mem_insertEntry he with heq | he
  · rw [heq]
    exact hv
  · exact hvalues e he

/-- So does adding a key that is not there. -/
theorem WellKeyed.append {es : Entries} (h : WellKeyed (.map es)) {n : String} {v : Value}
    (hnew : lookupKey es n = none) (hv : v.WellKeyed) : WellKeyed (.map (es ++ [(.str n, v)])) := by
  obtain ⟨hnames, hvalues⟩ := wellKeyed_map.mp h
  refine .map ?_ ?_
  · have hlast : Entries.names (es ++ [(.str n, v)]) = Entries.names es ++ [n] :=
      List.filterMap_append
    rw [hlast]
    refine List.nodup_append.mpr ⟨hnames, by simp, ?_⟩
    rintro m hm _ hn rfl
    exact Entries.lookupKey_eq_none.mp hnew (List.mem_singleton.mp hn ▸ hm)
  · intro e he
    rcases List.mem_append.mp he with he | he
    · exact hvalues e he
    · rw [List.mem_singleton.mp he]
      exact hv

end Value
end Criteria
