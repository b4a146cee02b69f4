import Criteria.Proofs.Running
import Criteria.Proofs.Settings.Lookup

/-!
# Sections

A section shows what is in force for its entries. For an entry that is a section itself it asks again, by the
longer key, and does not descend into the value at hand (`getSection_eq`). So it is the image of what is stored
(`Settings.image`) where every section in it is what its key leads to. That is so if no key of a section has a
dot; a section under a key with a dot is lost, or another one is shown in its place (`section_shown`).
-/

namespace Criteria

/-! ## Entries -/

namespace Entries

open Value (lookupKey)

/-- The entries that have a value. -/
def present (es : Entries) : Entries := es.filter fun e => !e.2.isNull

theorem lookupKey_of_mem {es : Entries} (hnames : (names es).Nodup) {n : String} {v : Value}
    (h : (.str n, v) ∈ es) : lookupKey es n = some v := by
  induction es with
  | nil => cases h
  | cons e rest ih =>
      obtain ⟨k, w⟩ := e
      rw [Value.lookupKey_cons]
      rcases List.mem_cons.mp h with heq | hmem
      · cases heq
        rw [if_pos (Value.sameKey_str.mpr rfl)]
      · have hrest : (names rest).Nodup := hnames.sublist ((List.sublist_cons_self _ _).filterMap _)
        rw [if_neg, ih hrest hmem]
        -- The first key would be the same text a second time.
        intro hk
        obtain rfl := Value.sameKey_str.mp hk
        have hnot : n ∉ names rest := (List.nodup_cons.mp (show (n :: names rest).Nodup from hnames)).1
        exact hnot (mem_names.mpr ⟨v, hmem⟩)

end Entries

namespace Value

/-- Whether a relation holds between every key and its value in the sections of a value, at any depth. -/
inductive EachEntry (P : Value → Value → Prop) : Value → Prop where
  | map {es : Entries} (entries : ∀ e ∈ es, P e.1 e.2) (values : ∀ e ∈ es, EachEntry P e.2) : EachEntry P (.map es)
  | leaf {v : Value} (h : ∀ es, v ≠ .map es) : EachEntry P v

theorem eachEntry_map {P : Value → Value → Prop} {es : Entries} :
    EachEntry P (.map es) ↔ (∀ e ∈ es, P e.1 e.2) ∧ ∀ e ∈ es, EachEntry P e.2 := by
  constructor
  · rintro (⟨hentries, hvalues⟩ | h)
    · exact ⟨hentries, hvalues⟩
    · exact absurd rfl (h es)
  · rintro ⟨hentries, hvalues⟩
    exact .map hentries hvalues

/-- Whether a key is a text without dots. -/
def IsPlainKey (k : Value) : Prop := ∃ n : String, k = .str n ∧ '.' ∉ n.toList

theorem depth_le_depthAll {es : Entries} {e : Value × Value} (h : e ∈ es) :
    Settings.depth e.2 ≤ Settings.depthAll es := by
  induction es with
  | nil => cases h
  | cons first rest ih =>
      obtain ⟨k, v⟩ := first
      rw [Settings.depthAll]
      rcases List.mem_cons.mp h with rfl | h
      · exact Nat.le_max_left _ _
      · exact Nat.le_trans (ih h) (Nat.le_max_right _ _)

end Value

namespace Settings

/-! ## Keys -/

theorem keyParts_ne_nil (key : String) : keyParts key ≠ [] := by
  simp [keyParts, Text.splitAt_ne_nil]

/-- The parts of a key behind another. -/
theorem keyParts_append (key name : String) : keyParts (key ++ "." ++ name) = keyParts key ++ keyParts name := by
  have htext : (key ++ "." ++ name).toList = key.toList ++ '.' :: name.toList := by simp
  rw [keyParts, htext, Text.splitAt_append, List.map_append]
  rfl

theorem keyParts_of_notMem {name : String} (h : '.' ∉ name.toList) : keyParts name = [name] := by
  rw [keyParts, Text.splitAt_of_notMem h]
  simp

@[simp] theorem follow_null (path : List String) : follow .null path = .null := by
  cases path <;> rfl

/-- A path is followed part by part. -/
theorem follow_append (v : Value) (p q : List String) : follow v (p ++ q) = follow (follow v p) q := by
  induction p generalizing v with
  | nil => rfl
  | cons part rest ih =>
      cases v with
      | map es => exact ih _
      | _ => simp [follow]

/-- What lies behind a key is reached from what the key leads to. -/
theorem lookup_append (s : Settings) (key name : String) :
    s.lookup (key ++ "." ++ name) = follow (s.lookup key) (keyParts name) := by
  rw [lookup, keyParts_append, follow_append]
  rfl

theorem lookup_append_plain {s : Settings} {key name : String} {es : Entries} (hlookup : s.lookup key = .map es)
    (hname : '.' ∉ name.toList) : s.lookup (key ++ "." ++ name) = (Value.lookupKey es name).getD .null := by
  rw [lookup_append, hlookup, keyParts_of_notMem hname]
  rfl

/-- A path to a section is no longer than sections are nested. -/
theorem length_lt_depth {v : Value} {path : List String} {es : Entries} (h : follow v path = .map es) :
    path.length < depth v := by
  induction path generalizing v with
  | nil =>
      obtain rfl : v = .map es := h
      simp [depth]
  | cons part rest ih =>
      cases v with
      | map inner =>
          have hrest : follow ((Value.lookupKey inner part).getD .null) rest = .map es := h
          cases hvalue : Value.lookupKey inner part with
          | none => simp [hvalue] at hrest
          | some w =>
              rw [hvalue, Option.getD_some] at hrest
              have hdepth := Value.depth_le_depthAll (Entries.mem_of_lookupKey hvalue)
              have hlength := ih hrest
              simp only [List.length_cons, depth] at hdepth ⊢
              omega
      | _ => cases h

/-! ## What a section asks -/

/-- The entries that are stored under a key; none where it leads to no section. -/
def storedAt (s : Settings) (key : String) : Entries :=
  match s.lookup key with
  | .map es => es
  | _ => []

theorem storedAt_of_lookup {s : Settings} {key : String} {es : Entries} (h : s.lookup key = .map es) :
    s.storedAt key = es := by
  simp only [storedAt, h]

theorem storedAt_eq_nil {s : Settings} {key : String} (h : ∀ es, s.lookup key ≠ .map es) : s.storedAt key = [] := by
  unfold storedAt
  split
  · rename_i es hes
    exact absurd hes (h es)
  · rfl

/-- What is in force for an entry of a section, when `shown` says what sections show. -/
def entryWith (s : Settings) (shown : String → Except Fault Entries) (key : String) (e : Value × Value) :
    Except Fault (Value × Value) :=
  let full := key ++ "." ++ e.1.text
  match e.2 with
  | .map _ => (shown full).map fun es => (e.1, .map es)
  | v => (s.resolve full v).map fun w => (e.1, w)

/-- What is in force for an entry of a section: for a leaf its value, for a section what is shown under its key. -/
def inForce (s : Settings) (key : String) (e : Value × Value) : Except Fault (Value × Value) :=
  s.entryWith (s.getSection · []) key e

theorem sectionWithin_succ (s : Settings) (fuel : Nat) (key : String) (fields : List String) :
    s.sectionWithin (fuel + 1) key fields =
      ((withFields (s.storedAt key) fields).mapM (s.entryWith (s.sectionWithin fuel · []) key)).map
        Entries.present := rfl

/-- Levels that no key can reach do not count. -/
theorem sectionWithin_stable {s : Settings} {fuel : Nat} {key : String}
    (h : depthAll s.entries < fuel + (keyParts key).length) :
    s.sectionWithin (fuel + 1) key [] = s.sectionWithin fuel key [] := by
  induction fuel generalizing key with
  | zero =>
      have hnone : s.storedAt key = [] := by
        refine storedAt_eq_nil fun es hes => ?_
        have hlength := length_lt_depth hes
        simp only [depth] at hlength
        omega
      rw [sectionWithin_succ, hnone]
      rfl
  | succ fuel ih =>
      -- Every entry has a longer key.
      have hentries : s.entryWith (s.sectionWithin (fuel + 1) · []) key =
          s.entryWith (s.sectionWithin fuel · []) key := by
        funext e
        have hlength := List.length_pos_iff.mpr (keyParts_ne_nil e.1.text)
        simp only [entryWith]
        rw [ih (by rw [keyParts_append, List.length_append]; omega)]
      rw [sectionWithin_succ, hentries, ← sectionWithin_succ]

/-- **A section asks again for the sections in it.** Its entries are answered in order, those that are sections by
what is shown under their keys, and those without a value are left out. -/
theorem getSection_eq (s : Settings) (key : String) (fields : List String) :
    s.getSection key fields =
      ((withFields (s.storedAt key) fields).mapM (s.inForce key)).map Entries.present := by
  have hentries : s.entryWith (s.sectionWithin (depthAll s.entries + 1) · []) key = s.inForce key := by
    funext e
    simp only [inForce, entryWith, getSection]
    rw [sectionWithin_stable (Nat.lt_add_right _ (Nat.lt_succ_self _))]
  rw [getSection, sectionWithin_succ, hentries]

/-! ## Images -/

mutual

/-- A value with what is in force for each of its leaves, and without the leaves for which nothing is; `key` is the
key of the value. -/
def image (s : Settings) (key : String) : Value → Except Fault Value
  | .map es => (imageAll s key es).map .map
  | v => s.resolve key v

/-- The entries of a section with what is in force for them, in order. -/
def imageAll (s : Settings) (key : String) : Entries → Except Fault Entries
  | [] => .ok []
  | (k, v) :: rest => do
    let w ← image s (key ++ "." ++ k.text) v
    let others ← imageAll s key rest
    return if w.isNull then others else (k, w) :: others

end

/-- Whether every section in a value is what its key leads to. -/
inductive ReachedAt (s : Settings) : String → Value → Prop where
  | map {key : String} {es : Entries} (reached : s.lookup key = .map es)
      (values : ∀ e ∈ es, ReachedAt s (key ++ "." ++ e.1.text) e.2) : ReachedAt s key (.map es)
  | leaf {key : String} {v : Value} (h : ∀ es, v ≠ .map es) : ReachedAt s key v

variable {s : Settings} {key : String}

/-- Entries that are each answered by their images are together the image of the section. -/
theorem mapM_inForce {es : Entries}
    (h : ∀ e ∈ es, s.inForce key e = (s.image (key ++ "." ++ e.1.text) e.2).map fun w => (e.1, w)) :
    (es.mapM (s.inForce key)).map Entries.present = s.imageAll key es := by
  induction es with
  | nil => rfl
  | cons e rest ih =>
      obtain ⟨k, v⟩ := e
      rw [imageAll, ← ih fun x hx => h x (List.mem_cons_of_mem _ hx), List.mapM_cons, h _ List.mem_cons_self]
      cases s.image (key ++ "." ++ k.text) v with
      | error f => rfl
      | ok w =>
          cases rest.mapM (s.inForce key) with
          | error f => rfl
          | ok others => cases hw : w.isNull <;>
              simp [Except.map, bind, Except.bind, pure, Except.pure, Entries.present, hw]

/-- An entry is answered by its image if the section in it is shown by its image. -/
theorem inForce_eq_image {e : Value × Value}
    (h : ∀ inner, e.2 = .map inner →
      s.getSection (key ++ "." ++ e.1.text) [] = s.imageAll (key ++ "." ++ e.1.text) inner) :
    s.inForce key e = (s.image (key ++ "." ++ e.1.text) e.2).map fun w => (e.1, w) := by
  obtain ⟨k, v⟩ := e
  cases v with
  | map inner =>
      simp only [inForce, entryWith, image, h inner rfl]
      cases s.imageAll (key ++ "." ++ k.text) inner <;> rfl
  | _ => rfl

/-- Where every section is what its key leads to, a section shows the image of what is stored. -/
theorem ReachedAt.getSection_eq {v : Value} (h : s.ReachedAt key v) :
    ∀ es, v = .map es → s.getSection key [] = s.imageAll key es := by
  induction h with
  | leaf h => exact fun es hes => absurd hes (h es)
  | @map key es reached values ih =>
      rintro _ ⟨⟩
      rw [Settings.getSection_eq, storedAt_of_lookup reached]
      exact mapM_inForce fun e he => inForce_eq_image (ih e he)

/-- Keys of sections without dots lead to the sections. -/
theorem reachedAt_of_plain {v : Value} (hkeyed : v.WellKeyed)
    (h : v.EachEntry fun k w => (∃ es, w = .map es) → k.IsPlainKey) :
    ∀ key, (∀ es, v = .map es → s.lookup key = v) → s.ReachedAt key v := by
  induction h with
  | leaf h => exact fun _ _ => .leaf h
  | @map es entries _ ih =>
      obtain ⟨hnames, hvalues⟩ := Value.wellKeyed_map.mp hkeyed
      intro key hlookup
      refine .map (hlookup es rfl) fun e he => ih e he (hvalues e he) _ ?_
      intro inner hinner
      obtain ⟨n, hn, hdot⟩ := entries e he ⟨inner, hinner⟩
      have hmem : (Value.str n, e.2) ∈ es := hn ▸ he
      rw [hn]
      show s.lookup (key ++ "." ++ n) = e.2
      rw [lookup_append_plain (hlookup es rfl) hdot, Entries.lookupKey_of_mem hnames hmem]
      rfl

/-! ## What is shown -/

/-- What is shown under the key of a section. -/
structure ShowsSection (s : Settings) (key : String) (es : Entries) : Prop where
  /-- Entry by entry and in order, leaves have their value in force, a section has what is shown under its key, and
  nothing but leaves without a value is left out. -/
  entries : s.getSection key [] = (es.mapM (s.inForce key)).map Entries.present
  /-- If every section in it is what its key leads to, that is the image of what is stored. -/
  image : s.ReachedAt key (.map es) → s.getSection key [] = s.imageAll key es
  /-- It is if no key of a section has a dot. Keys of leaves may have dots. -/
  plain : (Value.map es).EachEntry (fun k w => (∃ inner, w = .map inner) → k.IsPlainKey) →
    s.ReachedAt key (.map es)
  /-- A section whose key leads to none is lost. -/
  lost : ∀ k inner, (k, .map inner) ∈ es → (∀ other, s.lookup (key ++ "." ++ k.text) ≠ .map other) →
    s.inForce key (k, .map inner) = .ok (k, .map [])
  /-- In the place of a section whose key leads to another one, that one is shown. -/
  swapped : ∀ k inner other, (k, .map inner) ∈ es → s.ReachedAt (key ++ "." ++ k.text) (.map other) →
    s.inForce key (k, .map inner) = (s.imageAll (key ++ "." ++ k.text) other).map fun shown => (k, .map shown)

/-- **A section shows what its keys lead to.** -/
theorem section_shown (s : Settings) (key : String) {es : Entries} (hkeyed : (Value.map es).WellKeyed)
    (hlookup : s.lookup key = .map es) : s.ShowsSection key es where
  entries := by
    rw [getSection_eq, storedAt_of_lookup hlookup]
    rfl
  image h := h.getSection_eq es rfl
  plain h := by
    refine reachedAt_of_plain hkeyed h key fun inner hinner => ?_
    rw [hlookup]
  lost k inner _ hnone := by
    simp only [inForce, entryWith, getSection_eq, storedAt_eq_nil hnone]
    rfl
  swapped k inner other _ hreached := by
    simp only [inForce, entryWith, hreached.getSection_eq other rfl]

/-- Levels of loggers, and a section whose key has a dot. -/
def dottedKeys : Settings where
  entries := [(.str "level", .map [(.str "root", .int 20), (.str "flyspec.query", .int 10)]),
    (.str "store", .map [(.str "main.db", .map [(.str "port", .int 1)])])]

/-- The level of a logger with a dot in its name is shown, and the settings of a store with one are lost. -/
theorem dotted_keys_shown :
    dottedKeys.getSection "level" [] = .ok [(.str "root", .int 20), (.str "flyspec.query", .int 10)] ∧
      dottedKeys.getSection "store" [] = .ok [(.str "main.db", .map [])] := by
  constructor
  · have hshown := @section_shown dottedKeys "level" [(.str "root", .int 20), (.str "flyspec.query", .int 10)]
      (by simp [Value.wellKeyed_map, Entries.names, Value.WellKeyed.leaf]) rfl
    rw [hshown.image (hshown.plain (by simp [Value.eachEntry_map, Value.EachEntry.leaf]))]
    rfl
  · have hshown := @section_shown dottedKeys "store" [(.str "main.db", .map [(.str "port", .int 1)])]
      (by simp [Value.wellKeyed_map, Entries.names, Value.WellKeyed.leaf]) rfl
    have hnone : ∀ other, dottedKeys.lookup "store.main.db" ≠ .map other := by
      rintro _ ⟨⟩
    rw [hshown.entries, List.mapM_cons, hshown.lost _ _ List.mem_cons_self hnone]
    rfl

end Settings
end Criteria
