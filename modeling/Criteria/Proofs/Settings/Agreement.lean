import Criteria.Proofs.Settings.References
import Criteria.Proofs.Settings.Sections
import Criteria.Settings.Properties

/-!
# Sections and single keys

A section is built entry by entry, and a single key is followed from the root. Where no key of the settings has a
dot, both find the same: a section can be shown if every leaf below its key has a value in force, and then shows
these values, each at the path of its leaf (`section_agrees`). Fields that are asked for are answered like their
keys, whether they are stored or not, as long as they hold no section: variables of the environment take the place
of leaves in a section and of everything under a single key.
-/

namespace Criteria

namespace Value

/-- Whether a value is no section. -/
def IsLeaf (v : Value) : Prop := ∀ es, v ≠ .map es

/-- A value, unless it is null. -/
def present? (v : Value) : Option Value := if v.isNull then none else some v

theorem isLeaf_null : IsLeaf .null := by
  rintro _ ⟨⟩

theorem isLeaf_or_map (v : Value) : v.IsLeaf ∨ ∃ es, v = .map es := by
  by_cases h : ∃ es, v = .map es
  · exact .inr h
  · exact .inl (not_exists.mp h)

/-! ## Paths -/

theorem at?_cons (es : Entries) (part : String) (rest : List String) :
    (Value.map es).at? (part :: rest) = (lookupKey es part).bind fun v => v.at? rest := rfl

theorem at?_cons_nil (es : Entries) (n : String) : (Value.map es).at? [n] = lookupKey es n := by
  rw [at?_cons]
  cases lookupKey es n <;> rfl

theorem IsLeaf.at?_cons {v : Value} (h : v.IsLeaf) (part : String) (rest : List String) :
    v.at? (part :: rest) = none := by
  cases v with
  | map es => exact absurd rfl (h es)
  | _ => rfl

/-- What a path leads to has what the entries of sections hand on to their values. -/
theorem of_at? {Q : Value → Prop}
    (hstep : ∀ {es : Entries} {n : String} {v : Value}, Q (.map es) → lookupKey es n = some v → Q v)
    {v w : Value} {path : List String} (hv : Q v) (h : v.at? path = some w) : Q w := by
  induction path generalizing v with
  | nil =>
      obtain rfl : v = w := by simpa [at?] using h
      exact hv
  | cons part rest ih =>
      cases v with
      | map es =>
          obtain ⟨u, hu, hrest⟩ := Option.bind_eq_some_iff.mp h
          exact ih (hstep hv hu) hrest
      | _ => cases h

theorem EachEntry.of_lookupKey {P : Value → Value → Prop} {es : Entries} (h : EachEntry P (.map es)) {n : String}
    {v : Value} (hv : lookupKey es n = some v) : v.EachEntry P :=
  (eachEntry_map.mp h).2 _ (Entries.mem_of_lookupKey hv)

theorem EachEntry.imp {P Q : Value → Value → Prop} (himp : ∀ k v, P k v → Q k v) {v : Value}
    (h : v.EachEntry P) : v.EachEntry Q := by
  induction h with
  | map entries _ ih => exact .map (fun e he => himp _ _ (entries e he)) ih
  | leaf h => exact .leaf h

/-- Whether all keys of the sections of a value are texts without dots. -/
def HasPlainKeys (v : Value) : Prop := v.EachEntry fun k _ => k.IsPlainKey

theorem notMem_of_isPlainKey {n : String} (h : IsPlainKey (.str n)) : '.' ∉ n.toList := by
  obtain ⟨m, hm, hdot⟩ := h
  cases hm
  exact hdot

/-- Through plain keys, paths have no dots. -/
theorem HasPlainKeys.notMem_of_at? {v w : Value} {path : List String} (hplain : v.HasPlainKeys)
    (h : v.at? path = some w) : ∀ part ∈ path, '.' ∉ part.toList := by
  induction path generalizing v with
  | nil => simp
  | cons part rest ih =>
      cases v with
      | map es =>
          obtain ⟨u, hu, hrest⟩ := Option.bind_eq_some_iff.mp h
          have hpart := (eachEntry_map.mp hplain).1 _ (Entries.mem_of_lookupKey hu)
          exact List.forall_mem_cons.mpr
            ⟨notMem_of_isPlainKey hpart, ih (EachEntry.of_lookupKey hplain hu) hrest⟩
      | _ => cases h

theorem lookupKey_append (es rest : Entries) (n : String) :
    lookupKey (es ++ rest) n = (lookupKey es n).or (lookupKey rest n) := by
  simp only [lookupKey, List.find?_append, Option.map_or]

end Value

namespace Settings

open Value (lookupKey HasPlainKeys)

variable {s : Settings} {key : String}

/-! ## Single keys -/

/-- The key that a path leads to from a key. -/
def under (key : String) (path : List String) : String := path.foldl (fun k part => k ++ "." ++ part) key

theorem get_eq (s : Settings) (key : String) : s.get key .null = s.resolve key (s.lookup key) := by
  unfold get
  cases s.resolve key (s.lookup key) with
  | error f => rfl
  | ok v => cases v <;> rfl

/-- A key below another has its parts and those of the path. -/
theorem keyParts_under {path : List String} (hdots : ∀ part ∈ path, '.' ∉ part.toList) (key : String) :
    keyParts (under key path) = keyParts key ++ path := by
  induction path generalizing key with
  | nil => simp [under]
  | cons part rest ih =>
      obtain ⟨hpart, hrest⟩ := List.forall_mem_cons.mp hdots
      show keyParts (under (key ++ "." ++ part) rest) = _
      rw [ih hrest, keyParts_append, keyParts_of_notMem hpart, List.append_assoc]
      rfl

/-- The key of a path is looked up by following the path. -/
theorem lookup_under {path : List String} (hdots : ∀ part ∈ path, '.' ∉ part.toList) :
    s.lookup (under key path) = ((s.lookup key).at? path).getD .null := by
  rw [lookup, keyParts_under hdots, follow_append, follow_eq (follow _ _)]
  rfl

theorem toList_under {path : List String} (hne : path ≠ []) (key : String) :
    (under key path).toList = key.toList ++ '.' :: Text.joinWith '.' (path.map String.toList) := by
  induction path generalizing key with
  | nil => exact absurd rfl hne
  | cons part rest ih =>
      cases rest with
      | nil => simp [under, Text.joinWith]
      | cons next more =>
          show (under (key ++ "." ++ part) (next :: more)).toList = _
          rw [ih (List.cons_ne_nil _ _)]
          simp [Text.joinWith]

/-- The parts of a name lead to the name. -/
theorem under_keyParts (key name : String) : under key (keyParts name) = key ++ "." ++ name := by
  apply String.toList_injective
  rw [toList_under (keyParts_ne_nil name), keyParts, List.map_map]
  simp [Function.comp_def, Text.joinWith_splitAt]

/-! ## Images along paths -/

theorem image_of_isLeaf {v : Value} (h : v.IsLeaf) : s.image key v = s.resolve key v := by
  cases v with
  | map es => exact absurd rfl (h es)
  | _ => rfl

/-- What is in force for a leaf is a leaf. -/
theorem isLeaf_of_resolve {v w : Value} (hv : v.IsLeaf) (h : s.resolve key v = .ok w) : w.IsLeaf := by
  unfold resolve at h
  split at h
  · cases h
    rintro _ ⟨⟩
  · split at h
    · obtain ⟨text, -, rfl⟩ := map_eq_ok.mp h
      rintro _ ⟨⟩
    · cases h
      exact hv

theorem imageAll_cons_eq_ok {k v : Value} {rest shown : Entries} :
    s.imageAll key ((k, v) :: rest) = .ok shown ↔
      ∃ w others, s.image (key ++ "." ++ k.text) v = .ok w ∧ s.imageAll key rest = .ok others ∧
        shown = if w.isNull then others else (k, w) :: others := by
  rw [imageAll]
  constructor
  · intro h
    obtain ⟨w, hw, h⟩ := bind_eq_ok.mp h
    obtain ⟨others, hothers, h⟩ := bind_eq_ok.mp h
    cases h
    exact ⟨w, others, hw, hothers, rfl⟩
  · rintro ⟨w, others, hw, hothers, rfl⟩
    rw [hw, hothers]
    rfl

/-- An image has under a name the image of what is stored there, if that is not null. -/
theorem lookupKey_imageAll {es shown : Entries} (hnames : (Entries.names es).Nodup)
    (h : s.imageAll key es = .ok shown) (n : String) :
    match lookupKey es n with
    | none => lookupKey shown n = none
    | some v => ∃ w, s.image (key ++ "." ++ n) v = .ok w ∧ lookupKey shown n = w.present? := by
  induction es generalizing shown with
  | nil =>
      cases h
      rfl
  | cons e rest ih =>
      obtain ⟨k, v⟩ := e
      have hrest : (Entries.names rest).Nodup :=
        hnames.sublist ((List.sublist_cons_self _ _).filterMap _)
      obtain ⟨w, others, hw, hothers, rfl⟩ := imageAll_cons_eq_ok.mp h
      have hlater := ih hrest hothers
      rw [Value.lookupKey_cons]
      by_cases hk : k = .str n
      · subst hk
        have hnot : n ∉ Entries.names rest :=
          (List.nodup_cons.mp (show (n :: Entries.names rest).Nodup from hnames)).1
        rw [Entries.lookupKey_eq_none.mpr hnot] at hlater
        rw [if_pos (Value.sameKey_str.mpr rfl)]
        refine ⟨w, hw, ?_⟩
        -- An image that is null is left out, and the name does not come again.
        cases hnull : w.isNull
        · simp [Value.present?, hnull, Value.lookupKey_cons, Value.sameKey_str]
        · simpa [Value.present?, hnull] using hlater
      · rw [if_neg fun hsame => hk (Value.sameKey_str.mp hsame)]
        have hskip : lookupKey (if w.isNull then others else (k, w) :: others) n = lookupKey others n := by
          cases w.isNull
          · simp [Value.lookupKey_cons, Value.sameKey_str, hk]
          · rfl
        rw [hskip]
        exact hlater

/-- Along a path, an image has what is in force for a leaf that is stored there, and nothing where nothing is. -/
theorem at?_imageAll {es shown : Entries} (hkeyed : (Value.map es).WellKeyed)
    (h : s.imageAll key es = .ok shown) (part : String) (rest : List String) :
    ((Value.map es).at? (part :: rest) = none → (Value.map shown).at? (part :: rest) = none) ∧
      ∀ v, (Value.map es).at? (part :: rest) = some v → v.IsLeaf →
        ∃ w, s.resolve (under key (part :: rest)) v = .ok w ∧
          (Value.map shown).at? (part :: rest) = w.present? := by
  induction rest generalizing es shown key part with
  | nil =>
      have hpart := lookupKey_imageAll (Value.wellKeyed_map.mp hkeyed).1 h part
      rw [Value.at?_cons_nil, Value.at?_cons_nil]
      cases hv : lookupKey es part with
      | none =>
          rw [hv] at hpart
          exact ⟨fun _ => hpart, nofun⟩
      | some v =>
          rw [hv] at hpart
          obtain ⟨w, hw, hshown⟩ := hpart
          refine ⟨nofun, ?_⟩
          rintro _ ⟨⟩ hleaf
          exact ⟨w, (image_of_isLeaf hleaf).symm.trans hw, hshown⟩
  | cons next more ih =>
      have hpart := lookupKey_imageAll (Value.wellKeyed_map.mp hkeyed).1 h part
      simp only [Value.at?_cons _ part]
      cases hv : lookupKey es part with
      | none =>
          rw [hv] at hpart
          rw [hpart]
          exact ⟨fun _ => rfl, nofun⟩
      | some v =>
          rw [hv] at hpart
          obtain ⟨w, hw, hshown⟩ := hpart
          rw [hshown]
          rcases v.isLeaf_or_map with hleaf | ⟨inner, rfl⟩
          · -- A leaf has nothing below it, and what is in force for it neither.
            have hbelow := (isLeaf_of_resolve hleaf (image_of_isLeaf hleaf ▸ hw)).at?_cons next more
            rw [Option.bind_some, hleaf.at?_cons next more]
            refine ⟨fun _ => ?_, nofun⟩
            rw [Value.present?]
            split
            · rfl
            · exact hbelow
          · obtain ⟨innerShown, hinner, rfl⟩ := map_eq_ok.mp hw
            exact ih (hkeyed.of_lookupKey hv) hinner next

/-! ## When there are images -/

/-- A section has an image if each of its entries has one. -/
theorem exists_imageAll_iff {es : Entries} :
    (∃ shown, s.imageAll key es = .ok shown) ↔
      ∀ e ∈ es, ∃ w, s.image (key ++ "." ++ e.1.text) e.2 = .ok w := by
  induction es with
  | nil => simp [imageAll]
  | cons e rest ih =>
      rw [List.forall_mem_cons, ← ih]
      constructor
      · rintro ⟨_, h⟩
        obtain ⟨w, others, hw, hothers, -⟩ := imageAll_cons_eq_ok.mp h
        exact ⟨⟨w, hw⟩, others, hothers⟩
      · rintro ⟨⟨w, hw⟩, others, hothers⟩
        exact ⟨_, imageAll_cons_eq_ok.mpr ⟨w, others, hw, hothers, rfl⟩⟩

theorem exists_image_map_iff {es : Entries} :
    (∃ w, s.image key (.map es) = .ok w) ↔ ∃ shown, s.imageAll key es = .ok shown := by
  rw [image]
  cases s.imageAll key es <;> simp [Except.map]

/-- A value has an image if there is a value in force for each of its leaves. -/
theorem exists_image_iff {v : Value} (hkeyed : v.WellKeyed) (hplain : v.HasPlainKeys) (key : String) :
    (∃ w, s.image key v = .ok w) ↔
      ∀ path leaf, v.at? path = some leaf → leaf.IsLeaf → ∃ w, s.resolve (under key path) leaf = .ok w := by
  unfold HasPlainKeys at hplain
  induction hplain generalizing key with
  -- A leaf lies at the empty path, and nothing lies below it.
  | @leaf v hleaf =>
      rw [image_of_isLeaf hleaf]
      constructor
      · rintro hw path leaf hpath -
        cases path with
        | nil =>
            cases hpath
            exact hw
        | cons part rest => exact nomatch (Value.IsLeaf.at?_cons hleaf part rest).symm.trans hpath
      · intro hall
        exact hall [] v (by simp [Value.at?]) hleaf
  -- The leaves of a section are those of its entries, one step further down.
  | @map es entries _ ih =>
      obtain ⟨hnames, hvalues⟩ := Value.wellKeyed_map.mp hkeyed
      rw [exists_image_map_iff, exists_imageAll_iff]
      constructor
      · intro hall path leaf hpath hleaf
        cases path with
        | nil =>
            cases hpath
            exact absurd rfl (hleaf es)
        | cons part rest =>
            obtain ⟨v, hv, hrest⟩ := Option.bind_eq_some_iff.mp hpath
            have hmem := Entries.mem_of_lookupKey hv
            exact (ih _ hmem (hvalues _ hmem) (key ++ "." ++ part)).mp (hall _ hmem) rest leaf hrest hleaf
      · intro hall e he
        obtain ⟨n, hn, -⟩ := entries e he
        have hmem : (Value.str n, e.2) ∈ es := hn ▸ he
        have hkey : key ++ "." ++ e.1.text = key ++ "." ++ n := by
          rw [hn]
          rfl
        rw [hkey]
        refine (ih e he (hvalues e he) _).mpr fun path leaf hpath hleaf => ?_
        refine hall (n :: path) leaf ?_ hleaf
        rw [Value.at?_cons, Entries.lookupKey_of_mem hnames hmem]
        exact hpath

/-! ## Fields that are asked for -/

/-- Entries with a missing value for a named field, if they lack it. -/
def withField (es : Entries) (f : String) : Entries :=
  if (lookupKey es f).isSome then es else es ++ [(.str f, .null)]

theorem withFields_cons (es : Entries) (f : String) (rest : List String) :
    withFields es (f :: rest) = withFields (withField es f) rest := rfl

/-- What is added is a missing value under a named field. -/
theorem mem_withFields {es : Entries} {fields : List String} {e : Value × Value} (h : e ∈ withFields es fields) :
    e ∈ es ∨ ∃ f ∈ fields, e = (.str f, .null) := by
  induction fields generalizing es with
  | nil => exact .inl h
  | cons f rest ih =>
      rcases ih (withFields_cons es f rest ▸ h) with hmem | ⟨g, hg, rfl⟩
      · unfold withField at hmem
        split at hmem
        · exact .inl hmem
        · rcases List.mem_append.mp hmem with hmem | hmem
          · exact .inl hmem
          · exact .inr ⟨f, List.mem_cons_self, List.mem_singleton.mp hmem⟩
      · exact .inr ⟨g, List.mem_cons_of_mem _ hg, rfl⟩

theorem subset_withFields {es : Entries} {fields : List String} : es ⊆ withFields es fields := by
  induction fields generalizing es with
  | nil => exact fun _ h => h
  | cons f rest ih =>
      rw [withFields_cons]
      refine List.Subset.trans ?_ ih
      unfold withField
      split
      · exact fun _ h => h
      · exact List.subset_append_left _ _

theorem wellKeyed_withFields {es : Entries} (h : (Value.map es).WellKeyed) (fields : List String) :
    (Value.map (withFields es fields)).WellKeyed := by
  induction fields generalizing es with
  | nil => exact h
  | cons f rest ih =>
      rw [withFields_cons]
      apply ih
      unfold withField
      split
      · exact h
      · rename_i hnone
        exact h.append (by simpa using hnone) (.leaf Value.isLeaf_null)

/-- A named field is there after it has been added, missing or not. -/
theorem lookupKey_withField (es : Entries) (f n : String) :
    lookupKey (withField es f) n = (lookupKey es n).or (if n = f then some .null else none) := by
  have hlast : lookupKey [(.str f, .null)] n = if n = f then some .null else none := by
    rw [Value.lookupKey_cons]
    by_cases hf : n = f
    · rw [if_pos hf, if_pos (Value.sameKey_str.mpr (hf ▸ rfl))]
    · rw [if_neg hf, if_neg fun hsame => hf (Value.str.inj (Value.sameKey_str.mp hsame)).symm]
      rfl
  unfold withField
  split
  · rename_i hsome
    by_cases hf : n = f
    · obtain ⟨v, hv⟩ := Option.isSome_iff_exists.mp hsome
      rw [hf, hv]
      rfl
    · simp [hf]
  · rw [Value.lookupKey_append, hlast]

/-- A field that is asked for is null unless it is stored. -/
theorem lookupKey_withFields (es : Entries) (fields : List String) (n : String) :
    lookupKey (withFields es fields) n = (lookupKey es n).or (if n ∈ fields then some .null else none) := by
  induction fields generalizing es with
  | nil => simp [withFields]
  | cons f rest ih =>
      rw [withFields_cons, ih, lookupKey_withField]
      by_cases hf : n = f
      · cases lookupKey es n <;> simp [hf]
      · simp [hf]

/-- Stored leaves are found among the fields that are asked for. -/
theorem at?_withFields {es : Entries} {part : String} {rest : List String} {v : Value}
    (h : (Value.map es).at? (part :: rest) = some v) (fields : List String) :
    (Value.map (withFields es fields)).at? (part :: rest) = some v := by
  obtain ⟨u, hu, hrest⟩ := Option.bind_eq_some_iff.mp h
  rw [Value.at?_cons, lookupKey_withFields, hu]
  exact hrest

/-- Nothing lies below a field that is not stored. -/
theorem at?_withFields_eq_none {es : Entries} {part next : String} {more : List String}
    (h : (Value.map es).at? (part :: next :: more) = none) (fields : List String) :
    (Value.map (withFields es fields)).at? (part :: next :: more) = none := by
  rw [Value.at?_cons] at h ⊢
  rw [lookupKey_withFields]
  cases hv : lookupKey es part with
  | some v => simpa [hv] using h
  | none =>
      rw [Option.none_or]
      split
      · exact Value.isLeaf_null.at?_cons next more
      · rfl

/-! ## Sections of settings with plain keys -/

theorem keyParts_of_mem {name : String} (h : '.' ∈ name.toList) :
    ∃ part next more, keyParts name = part :: next :: more := by
  obtain ⟨before, behind, hname⟩ := List.append_of_mem h
  have hparts : keyParts name =
      (Text.splitAt '.' before ++ Text.splitAt '.' behind).map String.ofList := by
    rw [keyParts, hname, Text.splitAt_append]
  cases hbefore : Text.splitAt '.' before with
  | nil => exact absurd hbefore (Text.splitAt_ne_nil _ _)
  | cons part rest =>
      cases hbehind : rest ++ Text.splitAt '.' behind with
      | nil => exact absurd (List.append_eq_nil_iff.mp hbehind).2 (Text.splitAt_ne_nil _ _)
      | cons next more =>
          rw [hbefore, List.cons_append, hbehind] at hparts
          exact ⟨_, _, _, hparts⟩

/-- What holds of all that paths lead to holds of what keys lead to. -/
theorem of_lookup {Q : Value → Prop}
    (hstep : ∀ {es : Entries} {n : String} {v : Value}, Q (.map es) → lookupKey es n = some v → Q v)
    (hroot : Q (.map s.entries)) (hnull : Q .null) (key : String) : Q (s.lookup key) := by
  rw [lookup, follow_eq]
  cases hat : (Value.map s.entries).at? (keyParts key) with
  | none => exact hnull
  | some v => exact Value.of_at? hstep hroot hat

theorem wellKeyed_lookup (h : (Value.map s.entries).WellKeyed) (key : String) : (s.lookup key).WellKeyed :=
  of_lookup (fun h hv => h.of_lookupKey hv) h (.leaf Value.isLeaf_null) key

theorem hasPlainKeys_lookup (h : (Value.map s.entries).HasPlainKeys) (key : String) : (s.lookup key).HasPlainKeys :=
  of_lookup (fun h hv => h.of_lookupKey hv) h (.leaf Value.isLeaf_null) key

/-- A path into a stored value goes through the section stored there. -/
theorem at?_lookup_cons (s : Settings) (key part : String) (rest : List String) :
    (s.lookup key).at? (part :: rest) = (Value.map (s.storedAt key)).at? (part :: rest) := by
  rcases (s.lookup key).isLeaf_or_map with hleaf | ⟨es, hes⟩
  · rw [hleaf.at?_cons, storedAt_eq_nil hleaf]
    rfl
  · rw [hes, storedAt_of_lookup hes]

theorem wellKeyed_storedAt (h : (s.lookup key).WellKeyed) : (Value.map (s.storedAt key)).WellKeyed := by
  rcases (s.lookup key).isLeaf_or_map with hleaf | ⟨es, hes⟩
  · rw [storedAt_eq_nil hleaf]
    exact Value.wellKeyed_empty
  · rw [storedAt_of_lookup hes, ← hes]
    exact h

theorem hasPlainKeys_storedAt (h : (s.lookup key).HasPlainKeys) : (Value.map (s.storedAt key)).HasPlainKeys := by
  rcases (s.lookup key).isLeaf_or_map with hleaf | ⟨es, hes⟩
  · rw [storedAt_eq_nil hleaf]
    exact Value.eachEntry_map.mpr ⟨List.forall_mem_nil _, List.forall_mem_nil _⟩
  · rw [storedAt_of_lookup hes, ← hes]
    exact h

theorem exists_resolve_null (s : Settings) (key : String) : ∃ v, s.resolve key .null = .ok v := by
  unfold resolve
  split
  · exact ⟨_, rfl⟩
  · exact ⟨.null, rfl⟩

/-- Where there is a value for a key without what is stored, it is the one in force for the key. -/
theorem present?_or_of_resolve {stored v w : Value} (hnull : s.resolve key .null = .ok w)
    (hstored : s.resolve key stored = .ok v) : w.present?.or v.present? = v.present? := by
  cases henvironment : s.environment.lookup (variableName key) with
  | some text =>
      simp only [resolve, henvironment] at hnull hstored
      cases hnull
      cases hstored
      rfl
  | none =>
      simp only [resolve, henvironment] at hnull
      cases hnull
      rfl

/-- Fields that are asked for do not keep a section from being shown. -/
theorem exists_imageAll_withFields_iff {es : Entries} {fields : List String} :
    (∃ shown, s.imageAll key (withFields es fields) = .ok shown) ↔ ∃ shown, s.imageAll key es = .ok shown := by
  rw [exists_imageAll_iff, exists_imageAll_iff]
  constructor
  · exact fun hall e he => hall e (subset_withFields he)
  · intro hall e he
    rcases mem_withFields he with he | ⟨f, -, rfl⟩
    · exact hall e he
    · exact s.exists_resolve_null _

theorem reachedAt_of_hasPlainKeys (hkeyed : (s.lookup key).WellKeyed) (hplain : (s.lookup key).HasPlainKeys) :
    s.ReachedAt key (s.lookup key) := by
  refine reachedAt_of_plain hkeyed ?_ key fun _ _ => rfl
  refine Value.EachEntry.imp ?_ hplain
  exact fun _ _ hkey _ => hkey

/-- A section is the image of what is stored and asked for, if every section in it is what its key leads to. -/
theorem getSection_eq_imageAll (hreached : s.ReachedAt key (s.lookup key)) (fields : List String) :
    s.getSection key fields = s.imageAll key (withFields (s.storedAt key) fields) := by
  rw [getSection_eq]
  refine mapM_inForce fun e he => inForce_eq_image fun inner hinner => ?_
  rcases mem_withFields he with he | ⟨f, -, rfl⟩
  · rcases (s.lookup key).isLeaf_or_map with hleaf | ⟨es, hes⟩
    · rw [storedAt_eq_nil hleaf] at he
      cases he
    · rw [storedAt_of_lookup hes] at he
      rw [hes] at hreached
      cases hreached with
      | map _ values => exact (values e he).getSection_eq inner hinner
      | leaf hleaf => exact absurd rfl (hleaf es)
  · cases hinner

/-! ## Agreement -/

/-- Whether a path leads from a key to a leaf below it. -/
def LeafBelow (s : Settings) (key : String) (path : List String) : Prop :=
  path ≠ [] ∧ ∃ leaf, (s.lookup key).at? path = some leaf ∧ leaf.IsLeaf

/-- What a section that is shown has for the name of a field: what stands under the name as it is, or what lies at
its parts. -/
def found (shown : Entries) (name : String) : Option Value :=
  (lookupKey shown name).or ((Value.map shown).at? (keyParts name))

/-- What is shown below a key, with some fields that are asked for, is what single keys have. -/
structure AgreesBelow (s : Settings) (key : String) (fields : List String) : Prop where
  /-- The section can be shown if the keys of its leaves have a value, or none, but no fault, and those of the
  fields too that hold no section. -/
  shows : (∃ shown, s.getSection key fields = .ok shown) ↔
    (∀ path, s.LeafBelow key path → ∃ v, s.get (under key path) .null = .ok v) ∧
      ∀ f ∈ fields, (s.lookup (key ++ "." ++ f)).IsLeaf → ∃ v, s.get (key ++ "." ++ f) .null = .ok v
  /-- Then each leaf has the value of its key, and is absent if that is null. -/
  leaves : ∀ shown, s.getSection key fields = .ok shown → ∀ path, s.LeafBelow key path →
    ∃ v, s.get (under key path) .null = .ok v ∧ (Value.map shown).at? path = v.present?
  /-- So has each field that holds no section. -/
  fields : ∀ shown, s.getSection key fields = .ok shown → ∀ f ∈ fields, (s.lookup (key ++ "." ++ f)).IsLeaf →
    ∃ v, s.get (key ++ "." ++ f) .null = .ok v ∧ found shown f = v.present?

/-- What leads from a key to a leaf is what the key of the leaf has. -/
theorem get_under {path : List String} {leaf : Value} (hplain : (s.lookup key).HasPlainKeys)
    (hleaf : (s.lookup key).at? path = some leaf) :
    s.get (under key path) .null = s.resolve (under key path) leaf := by
  rw [get_eq, lookup_under (hplain.notMem_of_at? hleaf), hleaf]
  rfl

/-- A name is looked up along its parts. -/
theorem lookup_name (s : Settings) (key name : String) :
    s.lookup (key ++ "." ++ name) = ((s.lookup key).at? (keyParts name)).getD .null := by
  rw [lookup_append, follow_eq]

/-- What is found for a field that holds no section is what its key has. -/
theorem found_eq {shown : Entries} {fields : List String} {f : String} (hkeyed : (s.lookup key).WellKeyed)
    (hplain : (s.lookup key).HasPlainKeys)
    (h : s.imageAll key (withFields (s.storedAt key) fields) = .ok shown) (hf : f ∈ fields)
    (hleaf : (s.lookup (key ++ "." ++ f)).IsLeaf) :
    ∃ v, s.get (key ++ "." ++ f) .null = .ok v ∧ found shown f = v.present? := by
  have hasked := wellKeyed_withFields (wellKeyed_storedAt hkeyed) fields
  have hname := lookupKey_imageAll (Value.wellKeyed_map.mp hasked).1 h f
  rw [lookupKey_withFields, if_pos hf] at hname
  rw [get_eq]
  -- A dotted field is shown as a null entry of its own and, if it is stored, where its path leads.
  by_cases hdot : '.' ∈ f.toList
  · have hnone : lookupKey (s.storedAt key) f = none := by
      rw [Entries.lookupKey_eq_none, Entries.mem_names]
      rintro ⟨v, hv⟩
      exact Value.notMem_of_isPlainKey ((Value.eachEntry_map.mp (hasPlainKeys_storedAt hplain)).1 _ hv) hdot
    rw [hnone] at hname
    obtain ⟨w, hw, hshown⟩ := hname
    obtain ⟨part, next, more, hparts⟩ := keyParts_of_mem hdot
    have hbelow := at?_imageAll hasked h part (next :: more)
    rw [lookup_name, hparts, at?_lookup_cons] at hleaf ⊢
    rw [found, hshown, hparts]
    cases hat : (Value.map (s.storedAt key)).at? (part :: next :: more) with
    | none =>
        refine ⟨w, hw, ?_⟩
        rw [hbelow.1 (at?_withFields_eq_none hat fields), Option.or_none]
    | some leaf =>
        rw [hat] at hleaf
        obtain ⟨v, hv, hlies⟩ := hbelow.2 leaf (at?_withFields hat fields) hleaf
        rw [← hparts, under_keyParts] at hv
        exact ⟨v, hv, by rw [hlies]; exact present?_or_of_resolve hw hv⟩
  · have hat : (s.lookup key).at? [f] = lookupKey (s.storedAt key) f := by
      rw [at?_lookup_cons, Value.at?_cons_nil]
    rw [lookup_name, keyParts_of_notMem hdot, hat] at hleaf ⊢
    rw [found, keyParts_of_notMem hdot, Value.at?_cons_nil, Option.or_self]
    have hstored : (lookupKey (s.storedAt key) f).or (some .null) =
        some ((lookupKey (s.storedAt key) f).getD .null) := by
      cases lookupKey (s.storedAt key) f <;> rfl
    rw [hstored] at hname
    obtain ⟨w, hw, hshown⟩ := hname
    exact ⟨w, (image_of_isLeaf hleaf).symm.trans hw, hshown⟩

/-- Below a section that is reached and plain, what is shown and what keys have agree. -/
theorem agreesBelow (hreached : s.ReachedAt key (s.lookup key)) (hkeyed : (s.lookup key).WellKeyed)
    (hplain : (s.lookup key).HasPlainKeys) (fields : List String) : s.AgreesBelow key fields where
  shows := by
    have himage : (∃ shown, s.getSection key fields = .ok shown) ↔
        ∃ w, s.image key (.map (s.storedAt key)) = .ok w := by
      rw [getSection_eq_imageAll hreached, exists_imageAll_withFields_iff, exists_image_map_iff]
    rw [himage, exists_image_iff (wellKeyed_storedAt hkeyed) (hasPlainKeys_storedAt hplain)]
    constructor
    · -- From leaf to key: every leaf is the stored value of its key.
      intro hall
      have hleaves : ∀ path, s.LeafBelow key path → ∃ v, s.get (under key path) .null = .ok v := by
        rintro (_ | ⟨part, rest⟩) ⟨hne, leaf, hat, hleaf⟩
        · exact absurd rfl hne
        · rw [get_under hplain hat]
          exact hall _ leaf (at?_lookup_cons s key part rest ▸ hat) hleaf
      refine ⟨hleaves, fun f _ hleaf => ?_⟩
      cases hat : (s.lookup key).at? (keyParts f) with
      | some leaf =>
          rw [lookup_name, hat] at hleaf
          rw [← under_keyParts]
          exact hleaves _ ⟨keyParts_ne_nil f, leaf, hat, hleaf⟩
      | none =>
          rw [get_eq, lookup_name, hat]
          exact s.exists_resolve_null _
    · -- From key to leaf.
      rintro ⟨hleaves, -⟩ (_ | ⟨part, rest⟩) leaf hat hleaf
      · cases hat
        exact absurd rfl (hleaf _)
      · rw [← at?_lookup_cons] at hat
        rw [← get_under hplain hat]
        exact hleaves _ ⟨List.cons_ne_nil _ _, leaf, hat, hleaf⟩
  leaves := by
    rintro shown h (_ | ⟨part, rest⟩) ⟨hne, leaf, hat, hleaf⟩
    · exact absurd rfl hne
    · rw [getSection_eq_imageAll hreached] at h
      rw [get_under hplain hat]
      have hasked := wellKeyed_withFields (wellKeyed_storedAt hkeyed) fields
      exact (at?_imageAll hasked h part rest).2 leaf
        (at?_withFields (at?_lookup_cons s key part rest ▸ hat) fields) hleaf
  fields := by
    intro shown h f hf hleaf
    rw [getSection_eq_imageAll hreached] at h
    exact found_eq hkeyed hplain h hf hleaf

/-- Properties are bound from what single keys have. -/
structure BindSees (s : Settings) : Prop where
  /-- Without a section there are no properties. -/
  fails : ∀ fault, s.getSection Properties.sectionName [Properties.aliasField, Properties.logField] = .error fault →
    Properties.bind s = .error fault
  /-- Otherwise the section is checked, and for each field that holds no section it has what the key of the field
  has. -/
  sees : ∀ given, s.getSection Properties.sectionName [Properties.aliasField, Properties.logField] = .ok given →
    Properties.bind s =
        (Properties.check given).mapError (.invalidSettings Properties.className Properties.sectionName) ∧
      ∀ f ∈ [Properties.aliasField, Properties.logField],
        (s.lookup (Properties.sectionName ++ "." ++ f)).IsLeaf →
          ∃ v, s.get (Properties.sectionName ++ "." ++ f) .null = .ok v ∧ lookupKey given f = v.present?

/-- What is bound from a section is what its keys have. -/
theorem AgreesBelow.bindSees
    (h : s.AgreesBelow Properties.sectionName [Properties.aliasField, Properties.logField]) : s.BindSees where
  fails fault hfault := by
    rw [Properties.bind, hfault]
    rfl
  sees given hgiven := by
    constructor
    · rw [Properties.bind, hgiven]
      rfl
    · intro f hf hleaf
      obtain ⟨v, hv, hfound⟩ := h.fields given hgiven f hf hleaf
      refine ⟨v, hv, ?_⟩
      have hdots : ∀ f ∈ [Properties.aliasField, Properties.logField], '.' ∉ f.toList := by decide
      rwa [found, keyParts_of_notMem (hdots f hf), Value.at?_cons_nil, Option.or_self] at hfound

/-- **Sections agree with single keys.** If no key of the settings has a dot, what is shown below every key is what
single keys have, and properties are bound from it. -/
theorem section_agrees (s : Settings) (hkeyed : (Value.map s.entries).WellKeyed)
    (hplain : (Value.map s.entries).HasPlainKeys) :
    (∀ key fields, s.AgreesBelow key fields) ∧ s.BindSees := by
  have hagrees (key : String) (fields : List String) : s.AgreesBelow key fields := by
    have hkeyed := wellKeyed_lookup hkeyed key
    have hplain := hasPlainKeys_lookup hplain key
    exact agreesBelow (reachedAt_of_hasPlainKeys hkeyed hplain) hkeyed hplain fields
  exact ⟨hagrees, (hagrees _ _).bindSees⟩

/-- Settings of a store, with a pool of its own, for which the environment asks for encryption. -/
def storeSettings : Settings where
  entries := [(.str "db", .map [(.str "pool", .map [(.str "size", .int 5)])])]
  environment := [("FLYSPEC_DB_TLS", "yes")]

/-- The section of the store shows the size of its pool, and the encryption too if it is asked for. -/
theorem store_agrees : ∃ shown, storeSettings.getSection "db" ["tls"] = .ok shown ∧
    (Value.map shown).at? ["pool", "size"] = some (.int 5) ∧ found shown "tls" = some (.str "yes") := by
  obtain ⟨hagrees, -⟩ := section_agrees storeSettings
    (by simp [storeSettings, Value.wellKeyed_map, Entries.names, Value.WellKeyed.leaf])
    (by simp [storeSettings, Value.HasPlainKeys, Value.eachEntry_map, Value.EachEntry.leaf, Value.IsPlainKey])
  have hdb := hagrees "db" ["tls"]
  have hisSome : (storeSettings.getSection "db" ["tls"]).toOption.isSome := by decide +kernel
  obtain ⟨shown, hshown⟩ : ∃ shown, storeSettings.getSection "db" ["tls"] = .ok shown := by
    cases hresult : storeSettings.getSection "db" ["tls"] with
    | error f => simp [hresult, Except.toOption] at hisSome
    | ok shown => exact ⟨shown, rfl⟩
  refine ⟨shown, hshown, ?_, ?_⟩
  · have hsize : Value.IsLeaf (.int 5) := by
      rintro _ ⟨⟩
    obtain ⟨v, hv, hat⟩ := hdb.leaves shown hshown ["pool", "size"] ⟨List.cons_ne_nil _ _, .int 5, rfl, hsize⟩
    have hget : storeSettings.get "db.pool.size" .null = .ok (.int 5) :=
      get_of_not_text (by decide +kernel) (by rintro _ ⟨⟩)
    rw [hat, ← Except.ok.inj (hget.symm.trans hv)]
    rfl
  · obtain ⟨v, hv, hfound⟩ := hdb.fields shown hshown "tls" (List.mem_singleton.mpr rfl) Value.isLeaf_null
    have hget : storeSettings.get "db.tls" .null = .ok (.str "yes") :=
      get_of_variable (by decide +kernel) .null
    rw [hfound, ← Except.ok.inj (hget.symm.trans hv)]
    rfl

/-- Settings with a section where the alias of the root is expected, and a variable for the alias. -/
def aliasSection : Settings where
  entries := [(.str "flyspec", .map [(.str "specification", .map [(.str "default_alias", .map [(.str "x", .int 1)])])])]
  environment := [("FLYSPEC_SPECIFICATION_DEFAULT_ALIAS", "u")]

theorem wellKeyed_aliasSection : (Value.map aliasSection.entries).WellKeyed := by
  simp [aliasSection, Value.wellKeyed_map, Entries.names, Value.WellKeyed.leaf]

theorem hasPlainKeys_aliasSection : (Value.map aliasSection.entries).HasPlainKeys := by
  simp [aliasSection, Value.HasPlainKeys, Value.eachEntry_map, Value.EachEntry.leaf, Value.IsPlainKey]

/-- The section is shown as it is stored. -/
theorem getSection_aliasSection :
    aliasSection.getSection Properties.sectionName [Properties.aliasField, Properties.logField] =
      .ok [(.str "default_alias", .map [(.str "x", .int 1)])] := by
  have hreached : aliasSection.ReachedAt Properties.sectionName (aliasSection.lookup Properties.sectionName) :=
    reachedAt_of_hasPlainKeys (wellKeyed_lookup wellKeyed_aliasSection _)
      (hasPlainKeys_lookup hasPlainKeys_aliasSection _)
  have hx : aliasSection.resolve "flyspec.specification.default_alias.x" (.int 1) = .ok (.int 1) := by
    have hnone : aliasSection.environment.lookup (variableName "flyspec.specification.default_alias.x") = none := by
      decide +kernel
    simp only [resolve, hnone]
  have hlog : aliasSection.resolve "flyspec.specification.log_queries" .null = .ok .null := by
    have hnone : aliasSection.environment.lookup (variableName "flyspec.specification.log_queries") = none := by
      decide +kernel
    simp only [resolve, hnone]
  have hinner : aliasSection.imageAll "flyspec.specification.default_alias" [(.str "x", .int 1)] =
      .ok [(.str "x", .int 1)] :=
    imageAll_cons_eq_ok.mpr ⟨_, [], hx, rfl, rfl⟩
  rw [getSection_eq_imageAll hreached]
  refine imageAll_cons_eq_ok.mpr ⟨_, [], map_eq_ok.mpr ⟨_, hinner, rfl⟩, ?_, rfl⟩
  exact imageAll_cons_eq_ok.mpr ⟨_, [], hlog, rfl, rfl⟩

/-- The variable takes the place of the section under its key, but not in what properties are bound from. -/
theorem section_not_overridden :
    (Value.map aliasSection.entries).WellKeyed ∧ (Value.map aliasSection.entries).HasPlainKeys ∧
      aliasSection.get "flyspec.specification.default_alias" .null = .ok (.str "u") ∧
      aliasSection.getSection Properties.sectionName [Properties.aliasField, Properties.logField] =
        .ok [(.str "default_alias", .map [(.str "x", .int 1)])] ∧
      Properties.bind aliasSection = .error (.invalidSettings Properties.className Properties.sectionName
        [(Properties.aliasField, Properties.Refusal.textExpected.code)]) := by
  refine ⟨wellKeyed_aliasSection, hasPlainKeys_aliasSection, get_of_variable (by decide +kernel) .null,
    getSection_aliasSection, ?_⟩
  rw [Properties.bind, getSection_aliasSection]
  rfl

end Settings
end Criteria
