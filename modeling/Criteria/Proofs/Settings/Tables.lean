import Criteria.Proofs.Settings.Keys
import Criteria.Toml.Read

/-!
# Tables have no key twice

A reader of tables makes sections by adding a key that is not there, by setting one that may be, and by changing
the section under one. Each of these keeps a section well keyed, and so every document that can be read is
(`wellKeyed_of_read?`).
-/

namespace Criteria.Toml

open Value (WellKeyed wellKeyed_empty)

/-! ## Nests -/

/-- A change of sections that keeps them well keyed. -/
def Keeps (f : Entries → Option Entries) : Prop :=
  ∀ es es', WellKeyed (.map es) → f es = some es' → WellKeyed (.map es')

theorem keeps_some : Keeps some := by
  rintro es es' h ⟨⟩
  exact h

theorem keeps_addEntry (k : String) {v : Value} (hv : v.WellKeyed) : Keeps (addEntry k v) := by
  intro es es' h hadd
  unfold addEntry at hadd
  split at hadd
  · cases hadd
  · rename_i hnew
    cases hadd
    exact h.append (by simpa using hnew) hv

theorem keeps_appendTable (k : String) : Keeps (appendTable k) := by
  intro es es' h happend
  unfold appendTable at happend
  split at happend
  · rename_i hnew
    cases happend
    exact h.append hnew (.leaf nofun)
  · cases happend
    exact h.insertEntry _ (.leaf nofun)
  · cases happend

/-- A change at the end of a path keeps the sections on the way well keyed. -/
theorem keeps_updateAt (intoArrays : Bool) {f : Entries → Option Entries} (hf : Keeps f) (p : Path) :
    Keeps (updateAt intoArrays f p) := by
  induction p with
  | nil => exact hf
  | cons k rest ih =>
      intro es es' h hupdate
      -- the key is set in every case; the cases differ in the value it is set to
      have hset {made : Option Value} (hmade : ∀ v, made = some v → v.WellKeyed)
          (h' : (made >>= fun v => some (Value.insertEntry es (.str k) v)) = some es') :
          WellKeyed (.map es') := by
        obtain ⟨v, hv, heq⟩ := Option.bind_eq_some_iff.mp h'
        cases heq
        exact h.insertEntry _ (hmade v hv)
      rw [updateAt] at hupdate
      split at hupdate
      · refine hset (fun v hv => ?_) hupdate
        obtain ⟨made, hmade, rfl⟩ := Option.map_eq_some_iff.mp hv
        exact ih _ _ wellKeyed_empty hmade
      · rename_i old hold
        refine hset (fun v hv => ?_) hupdate
        obtain ⟨made, hmade, rfl⟩ := Option.map_eq_some_iff.mp hv
        exact ih _ _ (h.of_lookupKey hold) hmade
      · split at hupdate
        · refine hset (fun v hv => ?_) hupdate
          obtain ⟨made, -, rfl⟩ := Option.map_eq_some_iff.mp hv
          exact .leaf nofun
        · cases hupdate
      · cases hupdate

theorem keeps_addInline (closed : List Path) (key : Path) {v : Value} (hv : v.WellKeyed) :
    Keeps fun es => addInline es closed key v := by
  intro es es' h hadd
  unfold addInline at hadd
  split at hadd
  · cases hadd
  · obtain ⟨last, -, hupdate⟩ := Option.bind_eq_some_iff.mp hadd
    exact keeps_updateAt _ (keeps_addEntry last hv) _ _ _ h hupdate

/-! ## Values -/

theorem readBased?_ne_map {base : Nat} {isDigit : Char → Bool} {cs rest : List Char} {v : Value}
    (h : readBased? base isDigit cs = some (v, rest)) (es : Entries) : v ≠ .map es := by
  obtain ⟨r, -, hr⟩ := Option.map_eq_some_iff.mp h
  cases hr
  nofun

theorem readDecimal?_ne_map {cs rest : List Char} {v : Value}
    (h : readDecimal? cs = some (v, rest)) (es : Entries) : v ≠ .map es := by
  obtain ⟨r, -, h⟩ := Option.bind_eq_some_iff.mp h
  simp only at h
  split at h <;> cases h <;> nofun

theorem readNumber?_ne_map {cs rest : List Char} {v : Value}
    (h : readNumber? cs = some (v, rest)) (es : Entries) : v ≠ .map es := by
  unfold readNumber? at h
  split at h
  · exact readBased?_ne_map h es
  · exact readBased?_ne_map h es
  · exact readBased?_ne_map h es
  · exact readDecimal?_ne_map h es

theorem readSpecial?_ne_map {cs rest : List Char} {v : Value}
    (h : readSpecial? cs = some (v, rest)) (es : Entries) : v ≠ .map es := by
  unfold readSpecial? at h
  simp only at h
  split at h <;> cases h <;> nofun

theorem readMoment?_ne_map {cs rest : List Char} {v : Value}
    (h : readMoment? cs = some (v, rest)) (es : Entries) : v ≠ .map es := by
  obtain ⟨r, -, h⟩ := Option.bind_eq_some_iff.mp h
  simp only at h
  split at h
  · cases h
    nofun
  · obtain ⟨moment, -, h⟩ := Option.bind_eq_some_iff.mp h
    cases h
    nofun

/-- A value that is neither a text nor a collection is no section. -/
theorem readScalar?_ne_map {cs rest : List Char} {v : Value}
    (h : readScalar? cs = some (v, rest)) (es : Entries) : v ≠ .map es := by
  unfold readScalar? at h
  split at h
  · cases h
    nofun
  · cases h
    nofun
  · split at h
    · exact readMoment?_ne_map h es
    · split at h
      · cases h
        nofun
      · rw [Option.orElse_eq_orElse, Option.orElse_eq_or] at h
        rcases Option.or_eq_some_iff.mp h with h | ⟨-, h⟩
        · exact readNumber?_ne_map h es
        · exact readSpecial?_ne_map h es

mutual

/-- A value that is read has no key twice. -/
theorem wellKeyed_of_readValue? (fuel : Nat) {cs rest : List Char} {v : Value}
    (h : readValue? fuel cs = some (v, rest)) : v.WellKeyed := by
  match fuel with
  | 0 => simp [readValue?] at h
  | fuel + 1 =>
      unfold readValue? at h
      split at h
      · obtain ⟨after, -, h⟩ := Option.bind_eq_some_iff.mp h
        split at h
        · cases h
          exact .leaf nofun
        · obtain ⟨⟨items, rest₁⟩, -, h⟩ := Option.bind_eq_some_iff.mp h
          cases h
          exact .leaf nofun
      · split at h
        · cases h
          exact wellKeyed_empty
        · obtain ⟨⟨es, rest₁⟩, hinline, h⟩ := Option.bind_eq_some_iff.mp h
          cases h
          exact wellKeyed_of_readInline? fuel wellKeyed_empty hinline
      · split at h
        · obtain ⟨r, -, hr⟩ := Option.map_eq_some_iff.mp h
          cases hr
          exact .leaf nofun
        · exact .leaf (readScalar?_ne_map h)

/-- A table in one piece stays well keyed with every further key. -/
theorem wellKeyed_of_readInline? (fuel : Nat) {es es' : Entries} {closed : List Path}
    {cs rest : List Char} (hes : WellKeyed (.map es))
    (h : readInline? fuel es closed cs = some (es', rest)) : WellKeyed (.map es') := by
  match fuel with
  | 0 => simp [readInline?] at h
  | fuel + 1 =>
      obtain ⟨⟨key, v, rest₁⟩, hpair, h⟩ := Option.bind_eq_some_iff.mp h
      obtain ⟨es₁, hadd, h⟩ := Option.bind_eq_some_iff.mp h
      have hes₁ := keeps_addInline closed key (wellKeyed_of_readPair? fuel hpair) _ _ hes hadd
      split at h
      · cases h
        exact hes₁
      · exact wellKeyed_of_readInline? fuel hes₁ h
      · cases h

theorem wellKeyed_of_readPair? (fuel : Nat) {cs rest : List Char} {key : Path} {v : Value}
    (h : readPair? fuel cs = some (key, v, rest)) : v.WellKeyed := by
  match fuel with
  | 0 => simp [readPair?] at h
  | fuel + 1 =>
      obtain ⟨⟨key₁, rest₁⟩, -, h⟩ := Option.bind_eq_some_iff.mp h
      obtain ⟨rest₂, -, h⟩ := Option.bind_eq_some_iff.mp h
      obtain ⟨⟨v₁, rest₃⟩, hvalue, h⟩ := Option.bind_eq_some_iff.mp h
      cases h
      exact wellKeyed_of_readValue? fuel hvalue

end

/-! ## Documents -/

namespace Document

/-- The document has well-keyed entries. -/
def IsWellKeyed (d : Document) : Prop := WellKeyed (.map d.entries)

/-- Declaring a table keeps a document well keyed. -/
theorem isWellKeyed_addTable {d d' : Document} {p : Path} (h : d.IsWellKeyed)
    (hadd : d.addTable p = some d') : d'.IsWellKeyed := by
  unfold addTable at hadd
  simp only at hadd
  split at hadd
  · cases hadd
  · obtain ⟨entries, hupdate, heq⟩ := Option.bind_eq_some_iff.mp hadd
    cases heq
    exact keeps_updateAt _ keeps_some p _ _ h hupdate

theorem isWellKeyed_addArrayTable {d d' : Document} {p : Path} (h : d.IsWellKeyed)
    (hadd : d.addArrayTable p = some d') : d'.IsWellKeyed := by
  unfold addArrayTable at hadd
  simp only at hadd
  split at hadd
  · cases hadd
  · obtain ⟨last, -, hadd⟩ := Option.bind_eq_some_iff.mp hadd
    obtain ⟨entries, hupdate, heq⟩ := Option.bind_eq_some_iff.mp hadd
    cases heq
    exact keeps_updateAt _ (keeps_appendTable last) _ _ _ h hupdate

/-- Setting a key keeps a document well keyed. -/
theorem isWellKeyed_addKey {d d' : Document} {key : Path} {v : Value} (h : d.IsWellKeyed)
    (hv : v.WellKeyed) (hadd : d.addKey key v = some d') : d'.IsWellKeyed := by
  unfold addKey at hadd
  simp only at hadd
  split at hadd
  · cases hadd
  · split at hadd
    · cases hadd
    · obtain ⟨last, -, hadd⟩ := Option.bind_eq_some_iff.mp hadd
      obtain ⟨entries, hupdate, heq⟩ := Option.bind_eq_some_iff.mp hadd
      cases heq
      exact keeps_updateAt _ (keeps_addEntry last hv) _ _ _ h hupdate

end Document

/-- A statement keeps a document well keyed. -/
theorem isWellKeyed_readStatement? {d d' : Document} {cs rest : List Char} (h : d.IsWellKeyed)
    (hread : readStatement? d cs = some (d', rest)) : d'.IsWellKeyed := by
  unfold readStatement? at hread
  split at hread
  · obtain ⟨⟨key, rest₁⟩, -, hread⟩ := Option.bind_eq_some_iff.mp hread
    obtain ⟨d₁, hadd, hread⟩ := Option.bind_eq_some_iff.mp hread
    obtain ⟨rest₂, -, hread⟩ := Option.bind_eq_some_iff.mp hread
    obtain ⟨rest₃, -, hread⟩ := Option.bind_eq_some_iff.mp hread
    cases hread
    exact Document.isWellKeyed_addArrayTable h hadd
  · obtain ⟨⟨key, rest₁⟩, -, hread⟩ := Option.bind_eq_some_iff.mp hread
    obtain ⟨d₁, hadd, hread⟩ := Option.bind_eq_some_iff.mp hread
    obtain ⟨rest₂, -, hread⟩ := Option.bind_eq_some_iff.mp hread
    cases hread
    exact Document.isWellKeyed_addTable h hadd
  · cases hread
    exact h
  · obtain ⟨⟨key, v, rest₁⟩, hpair, hread⟩ := Option.bind_eq_some_iff.mp hread
    obtain ⟨d₁, hadd, hread⟩ := Option.bind_eq_some_iff.mp hread
    cases hread
    exact Document.isWellKeyed_addKey h (wellKeyed_of_readPair? _ hpair) hadd

theorem isWellKeyed_readStatements? (fuel : Nat) {d d' : Document} {cs : List Char} (h : d.IsWellKeyed)
    (hread : readStatements? fuel d cs = some d') : d'.IsWellKeyed := by
  induction fuel generalizing d cs with
  | zero => cases hread
  | succ fuel ih =>
      rw [readStatements?] at hread
      split at hread
      · cases hread
        exact h
      · exact ih h hread
      · obtain ⟨⟨d₁, rest⟩, hstatement, hread⟩ := Option.bind_eq_some_iff.mp hread
        obtain ⟨after, -, hread⟩ := Option.bind_eq_some_iff.mp hread
        have h₁ := isWellKeyed_readStatement? h hstatement
        split at hread
        · cases hread
          exact h₁
        · exact ih h₁ hread
        · cases hread

/-- **Tables that can be read are well keyed.** -/
theorem wellKeyed_of_read? {text : String} {es : Entries} (h : read? text = some es) :
    WellKeyed (.map es) := by
  obtain ⟨d, hread, rfl⟩ := Option.map_eq_some_iff.mp h
  have hempty : Document.IsWellKeyed {} := wellKeyed_empty
  exact isWellKeyed_readStatements? _ hempty hread

end Criteria.Toml
