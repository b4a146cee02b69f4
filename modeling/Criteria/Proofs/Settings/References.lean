import Criteria.Proofs.Settings.Leftovers

/-!
# References to keys

A placeholder may name a key, and the value of that key may be the text of another placeholder. Such a chain of
references reads the value that is stored under the last key: a variable that takes the place of the key itself is
not seen through a reference (`references_read_stored`).
-/

namespace Criteria

namespace Settings

open Piece (parts begins dollar opening closing)

/-! ## Placeholders of keys -/

/-- A reference to a key, with or without a default. -/
def referenceTo (key : String) (default : Option String) : List Char :=
  key.toList ++ (default.map fun d => ':' :: d.toList).getD []

/-- The text of a placeholder that refers to a key. -/
def placeholder (key : String) (default : Option String) : String :=
  String.ofList (Piece.source (.reference (referenceTo key default)))

/-- Whether a key can be named in a reference that no variable is found for. -/
structure Referable (s : Settings) (key : String) : Prop where
  nonempty : key ≠ ""
  noColon : ':' ∉ key.toList
  noClosing : closing ∉ key.toList
  noVariable : s.environment.lookup key = none

/-- Whether a default can stand in a placeholder. -/
def Insertable (default : Option String) : Prop := ∀ d ∈ default, closing ∉ d.toList

instance (default : Option String) : Decidable (Insertable default) :=
  inferInstanceAs (Decidable (∀ d ∈ default, closing ∉ d.toList))

variable {s : Settings} {key : String} {default : Option String}

@[simp] theorem begins_placeholder : begins (placeholder key default).toList = true :=
  Piece.begins_iff.mpr ⟨[], referenceTo key default ++ [closing], by simp [placeholder, Piece.source]⟩

theorem closing_not_mem_referenceTo (hkey : s.Referable key) (hdefault : Insertable default) :
    closing ∉ referenceTo key default := by
  cases default with
  | none => simpa [referenceTo] using hkey.noClosing
  | some d =>
      have hcolon : closing ≠ ':' := by decide
      simp [referenceTo, hkey.noClosing, hcolon, hdefault d rfl]

/-- A placeholder is read as one reference. -/
theorem parts_placeholder (hkey : s.Referable key) (hdefault : Insertable default) :
    parts (placeholder key default).toList = [.reference (referenceTo key default)] := by
  have hne : referenceTo key default ≠ [] := by simp [referenceTo, hkey.nonempty]
  have hreference : Piece.reference? (referenceTo key default ++ [closing]) = some (referenceTo key default, []) :=
    Piece.reference?_eq_some_of_closing hne (closing_not_mem_referenceTo hkey hdefault)
  have htext : (placeholder key default).toList = dollar :: opening :: (referenceTo key default ++ [closing]) := by
    simp [placeholder, Piece.source]
  rw [htext, parts]
  simp only [and_self, if_true]
  split
  · rename_i name behind h
    cases hreference.symm.trans h
    simp [parts]
  · rename_i h
    cases hreference.symm.trans h

/-- A reference splits into its key and its default again. -/
theorem split_referenceTo (hkey : s.Referable key) :
    Piece.split (referenceTo key default) = (key.toList, default.map String.toList) := by
  have hname : ∀ c ∈ key.toList, (decide (c ≠ ':')) = true := by
    intro c hc
    simpa using fun h : c = ':' => hkey.noColon (h ▸ hc)
  rw [Piece.split, referenceTo, List.takeWhile_append_of_pos hname, List.dropWhile_append_of_pos hname]
  cases default <;> simp

/-- A reference to a key comes to what is stored under it, else to the default. -/
theorem target_referenceTo (hkey : s.Referable key) :
    s.target (referenceTo key default) =
      match s.lookup key, default with
      | .null, some d => .fallback d.toList
      | .null, none => .nothing
      | v, _ => .stored v := by
  rw [target, split_referenceTo hkey]
  simp only [String.ofList_toList, hkey.noVariable]
  cases s.lookup key <;> cases default <;> rfl

/-- A text that is one placeholder stands for what the reference stands for. -/
theorem expandWithin_placeholder (hkey : s.Referable key) (hdefault : Insertable default) (fuel : Nat) :
    s.expandWithin (fuel + 1) (placeholder key default) =
      s.resolveReference (s.expandWithin fuel) (referenceTo key default) := by
  rw [expandWithin_succ, parts_placeholder hkey hdefault, List.mapM_cons, List.mapM_nil, replace]
  cases s.resolveReference (s.expandWithin fuel) (referenceTo key default) with
  | error f => rfl
  | ok t => simp [Except.map, bind, Except.bind, pure, Except.pure, String.join_cons]

/-! ## Chains of references -/

/-- Whether a text is a placeholder that leads to a key, with a default for it, in `n` references. -/
inductive Refers (s : Settings) (key : String) (default : Option String) : Nat → String → Prop where
  | direct (hkey : s.Referable key) (hdefault : Insertable default) : Refers s key default 1 (placeholder key default)
  | through {name next : String} {other : Option String} {n : Nat} (hname : s.Referable name)
      (hother : Insertable other) (hstored : s.lookup name = .str next) (hnext : Refers s key default n next) :
      Refers s key default (n + 1) (placeholder name other)

variable {n : Nat} {text : String}

theorem Refers.begins (h : s.Refers key default n text) : begins text.toList = true := by
  cases h <;> exact begins_placeholder

/-- The next reference of a chain is looked at with one text less to go. -/
theorem expandWithin_through {name next : String} {other : Option String} (hname : s.Referable name)
    (hother : Insertable other) (hstored : s.lookup name = .str next) (hnext : begins next.toList = true)
    (fuel : Nat) : s.expandWithin (fuel + 1) (placeholder name other) = s.expandWithin fuel next := by
  rw [expandWithin_placeholder hname hother, resolveReference_eq, target_referenceTo hname, hstored]
  simp [Value.text, hnext]

/-- A chain ends where the last key is looked up. -/
theorem Refers.expandWithin_eq (h : s.Refers key default n text) (fuel : Nat) :
    s.expandWithin (fuel + n) text = s.resolveReference (s.expandWithin fuel) (referenceTo key default) := by
  induction h with
  | direct hkey hdefault => exact expandWithin_placeholder hkey hdefault fuel
  | through hname hother hstored hnext ih =>
      rw [← Nat.add_assoc, expandWithin_through hname hother hstored hnext.begins, ih]

theorem Refers.referable (h : s.Refers key default n text) : s.Referable key := by
  induction h with
  | direct hkey _ => exact hkey
  | through _ _ _ _ ih => exact ih

/-- A placeholder of a key with a value stands for what the text of the value stands for. -/
theorem expands_of_expands_placeholder (hkey : s.Referable key) (hdefault : Insertable default) {v : Value}
    (hlookup : s.lookup key = v) (hv : v ≠ .null) {fs : List Fragment}
    (h : s.Expands (parts (placeholder key default).toList) fs) : s.Expands (parts v.text.toList) fs := by
  have htarget : s.target (referenceTo key default) = .stored v := by
    rw [target_referenceTo hkey, hlookup]
    cases v with
    | null => exact absurd rfl hv
    | _ => cases default <;> rfl
  rw [parts_placeholder hkey hdefault] at h
  cases h with
  | stored h hvalue hrest =>
      cases htarget.symm.trans h
      cases hrest
      rw [List.append_nil]
      exact hvalue
  | environment h _ | fallback h _ => cases htarget.symm.trans h

theorem Refers.expands (h : s.Refers key default n text) {v : Value} (hlookup : s.lookup key = v) (hv : v ≠ .null)
    {fs : List Fragment} (hfs : s.Expands (parts text.toList) fs) : s.Expands (parts v.text.toList) fs := by
  induction h with
  | direct hkey hdefault => exact expands_of_expands_placeholder hkey hdefault hlookup hv hfs
  | through hname hother hstored _ ih =>
      exact ih (expands_of_expands_placeholder hname hother hstored (by simp) hfs)

/-! ## What references read -/

/-- A text that leads to a key reads what is stored under it. -/
structure ReadsStored (s : Settings) (key : String) (default : Option String) (n : Nat) (text : String) : Prop where
  /-- The value that is stored is read, its text expanded, whatever the variable named after the key. -/
  stored : s.lookup key ≠ .null → ∀ fuel, s.expandWithin (fuel + n) text =
    if begins (s.lookup key).text.toList then s.expandWithin fuel (s.lookup key).text else .ok (s.lookup key).text
  /-- Where none is stored, the default is read if there is one, whatever the variable named after the key. -/
  missing : s.lookup key = .null → ∀ fuel, s.expandWithin (fuel + n) text =
    (default.map .ok).getD (.error (.unresolvedPlaceholder key))
  /-- That is the value of the key where no variable takes its place and its text is not expanded for the reference
  alone. -/
  agrees : s.environment.lookup (variableName key) = none →
    ((∃ t, s.lookup key = .str t) ∨ begins (s.lookup key).text.toList = false) →
      ∀ v, s.get key .null = .ok v → v ≠ .null → ∀ fuel t, s.expandWithin fuel text = .ok t → t = v.text
  /-- It is not seen through the text that a variable takes its place. -/
  overridden : ∀ w, s.environment.lookup (variableName key) = some w → s.get key .null = .ok (.str w)

theorem get_of_variable {w : String} (h : s.environment.lookup (variableName key) = some w) (d : Value) :
    s.get key d = .ok (.str w) := by
  simp only [get, resolve, h]
  rfl

/-- Without a variable, a value that is no text is in force as it is. -/
theorem get_of_not_text (hvariable : s.environment.lookup (variableName key) = none)
    (hstored : ∀ t, s.lookup key ≠ .str t) : s.get key .null = .ok (s.lookup key) := by
  simp only [get, resolve, hvariable]
  cases hlookup : s.lookup key with
  | str t => exact absurd hlookup (hstored t)
  | _ => rfl

theorem lookup_ne_null_of_get (hvariable : s.environment.lookup (variableName key) = none) {v : Value}
    (h : s.get key .null = .ok v) (hv : v ≠ .null) : s.lookup key ≠ .null := by
  intro hlookup
  rw [get_of_not_text hvariable (by simp [hlookup]), hlookup] at h
  cases h
  exact hv rfl

/-- A text that refers to a key through a chain is expanded to the text of the value of the key. -/
theorem Refers.agrees (h : s.Refers key default n text)
    (hvariable : s.environment.lookup (variableName key) = none)
    (hstored : (∃ t, s.lookup key = .str t) ∨ Piece.begins (s.lookup key).text.toList = false) {v : Value}
    (hget : s.get key .null = .ok v) (hv : v ≠ .null) {fuel : Nat} {t : String}
    (hexpand : s.expandWithin fuel text = .ok t) : t = v.text := by
  have hlookup := lookup_ne_null_of_get hvariable hget hv
  obtain ⟨fs, hfs, rfl⟩ := expands_of_expandWithin hexpand
  have hvalue := h.expands rfl hlookup hfs
  by_cases htext : ∃ stored, s.lookup key = .str stored
  · -- The text of the key is expanded when it is got, with more texts to go, but to the same fragments.
    obtain ⟨stored, hstr⟩ := htext
    rw [get_of_text hstr hvariable] at hget
    obtain ⟨result, hresult, rfl⟩ := map_eq_ok.mp hget
    obtain ⟨gs, hgs, rfl⟩ := expands_of_expandWithin hresult
    rw [hstr] at hvalue
    rw [hvalue.unique hgs]
    rfl
  · -- Any other value is got as it is, and its text has nothing to expand.
    have hplain := hstored.resolve_left htext
    rw [get_of_not_text hvariable fun t ht => htext ⟨t, ht⟩] at hget
    cases hget
    rw [Piece.parts_eq_map_char hplain] at hvalue
    rw [hvalue.unique (expands_chars _), Fragment.text_map_char, String.ofList_toList]

/-- **References read what is stored.** A placeholder that leads to a key, directly or through others, is replaced by
what is stored under the key, else by the default. The variable that takes the place of the key when it is got does
not count there, and without it both are the same. -/
theorem references_read_stored (s : Settings) (key : String) (default : Option String) (n : Nat) (text : String)
    (hrefers : s.Refers key default n text) : s.ReadsStored key default n text where
  stored hlookup fuel := by
    rw [hrefers.expandWithin_eq, resolveReference_eq, target_referenceTo hrefers.referable]
    cases hstored : s.lookup key with
    | null => exact absurd hstored hlookup
    | _ => cases default <;> rfl
  missing hlookup fuel := by
    rw [hrefers.expandWithin_eq, resolveReference_eq, target_referenceTo hrefers.referable, hlookup]
    cases default <;> simp [referenceTo]
  agrees hvariable hstored v hget hv fuel t hexpand := hrefers.agrees hvariable hstored hget hv hexpand
  overridden w hvariable := get_of_variable hvariable .null

/-- Settings of a service whose port is overridden. -/
def overriddenPort : Settings where
  entries := [(.str "url", .str "$\x7bport\x7d"), (.str "port", .str "$\x7bdb.port:0\x7d"),
    (.str "db", .map [(.str "port", .int 1)])]
  environment := [("FLYSPEC_DB_PORT", "2")]

/-- An override of the key is not seen through a reference. -/
theorem overriddenPort_not_seen :
    overriddenPort.get "url" .null = .ok (.str "1") ∧ overriddenPort.get "db.port" .null = .ok (.str "2") := by
  have hport : overriddenPort.Refers "db.port" (some "0") 1 (placeholder "db.port" (some "0")) :=
    .direct ⟨by decide, by decide, by decide, by decide⟩ (by decide)
  have hurl : overriddenPort.Refers "db.port" (some "0") 2 (placeholder "port" none) :=
    .through ⟨by decide, by decide, by decide, by decide⟩ (by decide) rfl hport
  have hreads := references_read_stored overriddenPort _ _ _ _ hurl
  have hlookup : overriddenPort.lookup "db.port" = .int 1 := rfl
  have hexpand := hreads.stored (by simp [hlookup]) 9
  rw [hlookup] at hexpand
  constructor
  · rw [@get_of_text overriddenPort "url" _ rfl (by decide +kernel), expand]
    exact congrArg (Except.map Value.str) hexpand
  · exact hreads.overridden "2" (by decide +kernel)

end Settings
end Criteria
