import Criteria.Proofs.Running
import Criteria.Proofs.Settings.Keys
import Criteria.Yaml.Read

/-!
# Documents have no key twice

A reader of documents makes every mapping by setting its keys one after another, so that a later entry takes the
place of an earlier one. All of its values are well keyed therefore (`wellKeyed_of_read?`).
-/

namespace Criteria.Yaml

open Value (WellKeyed)

/-! ## Outcomes -/

namespace Outcome

variable {α β γ : Type}

theorem both_eq_ok {f : α → β → γ} {x : Outcome α} {y : Outcome β} {c : γ} :
    both f x y = .ok c ↔ ∃ a b, x = .ok a ∧ y = .ok b ∧ f a b = c := by
  rcases x with d | a <;> rcases y with e | b <;> simp [both]

end Outcome

/-! ## Texts -/

/-- What is made by a constructor other than that of sections is none. -/
theorem ne_map_of_map_eq_ok {ε α : Type} {x : Except ε α} {make : α → Value} {v : Value}
    (h : x.map make = .ok v) (hmake : ∀ a es, make a ≠ .map es) (es : Entries) : v ≠ .map es := by
  obtain ⟨a, -, rfl⟩ := map_eq_ok.mp h
  exact hmake a es

theorem MomentText.value_ne_map {m : MomentText} {v : Value} (h : m.value = .ok v) (es : Entries) :
    v ≠ .map es := by
  unfold MomentText.value at h
  split at h
  · exact ne_map_of_map_eq_ok h (fun _ _ => nofun) es
  · split at h
    · cases h
    · obtain ⟨d, -, h⟩ := bind_eq_ok.mp h
      simp only at h
      -- hour, minute, second and day are refused one after another
      split at h
      · cases h
      · split at h
        · cases h
        · split at h
          · cases h
          · split at h
            · cases h
            · cases h
              nofun

/-- A text with a tag for texts is no section. -/
theorem Scalar.value_ne_map {tag : Tag} {text : String} {v : Value}
    (h : Scalar.value tag text = .ok v) (es : Entries) : v ≠ .map es := by
  unfold Scalar.value at h
  split at h
  · cases h
    nofun
  · exact ne_map_of_map_eq_ok h (fun _ _ => nofun) es
  · exact ne_map_of_map_eq_ok h (fun _ _ => nofun) es
  · exact ne_map_of_map_eq_ok h (fun _ _ => nofun) es
  · exact ne_map_of_map_eq_ok h (fun _ _ => nofun) es
  · unfold moment at h
    split at h
    · exact MomentText.value_ne_map h es
    · cases h
  · cases h
    nofun
  · cases h

/-! ## Mappings -/

/-- The values of entries are well keyed; nothing is said about their keys. -/
def ValuesKeyed (es : Entries) : Prop := ∀ e ∈ es, e.2.WellKeyed

theorem ValuesKeyed.append {es fs : Entries} (h : ValuesKeyed es) (h' : ValuesKeyed fs) :
    ValuesKeyed (es ++ fs) := by
  intro e he
  rcases List.mem_append.mp he with he | he
  · exact h e he
  · exact h' e he

/-- Entries set one after another make a section. -/
theorem wellKeyed_ofEntries {es : Entries} (h : ValuesKeyed es) : WellKeyed (.map (ofEntries es)) := by
  have hfold : ∀ done : Entries, WellKeyed (.map done) →
      WellKeyed (.map (es.foldl (fun done e => Value.insertEntry done e.1 e.2) done)) := by
    intro done hdone
    induction es generalizing done with
    | nil => exact hdone
    | cons e rest ih =>
        exact ih (fun e' he' => h e' (List.mem_cons_of_mem _ he')) _
          (hdone.insertEntry e.1 (h e List.mem_cons_self))
  exact hfold [] Value.wellKeyed_empty

/-- An entry has the value of its node. -/
theorem wellKeyed_of_entryOf {k v : Outcome Value} {e : Value × Value} (h : entryOf k v = .ok e)
    (hv : ∀ w, v = .ok w → w.WellKeyed) : e.2.WellKeyed := by
  unfold entryOf at h
  split at h
  · split at h
    · obtain ⟨w, hw, rfl⟩ := map_eq_ok.mp h
      exact hv w hw
    · cases h
  · cases h
  · cases h

namespace Node

mutual

/-- A node stands for a value without repeated keys. -/
theorem wellKeyed_valueOf (n : Node) {v : Value} (h : valueOf n = .ok v) : v.WellKeyed := by
  match n with
  | .scalar tag text =>
      rw [valueOf] at h
      split at h
      · cases h
      · exact .leaf (Scalar.value_ne_map (mapError_eq_ok.mp h))
  | .sequence tag items =>
      rw [valueOf.eq_def] at h
      simp only at h
      split at h
      · exact .leaf (ne_map_of_map_eq_ok (mapError_eq_ok.mp h) fun _ _ => nofun)
      · exact .leaf (ne_map_of_map_eq_ok (mapError_eq_ok.mp h) fun _ _ => nofun)
      · exact .leaf (ne_map_of_map_eq_ok (mapError_eq_ok.mp h) fun _ _ => nofun)
      · cases h
      · cases h
      · cases h
  | .mapping tag es =>
      rw [valueOf.eq_def] at h
      simp only at h
      -- A mapping sets its keys one by one, those it takes over first.
      have hentries : ∀ entries, Outcome.both (fun m o => ofEntries (m ++ o)) (mergedOf es) (ownOf es) =
          .ok entries → WellKeyed (.map entries) := by
        intro entries hentries
        obtain ⟨merged, own, hmerged, hown, rfl⟩ := Outcome.both_eq_ok.mp hentries
        exact wellKeyed_ofEntries ((valuesKeyed_mergedOf es hmerged).append (valuesKeyed_ownOf es hown))
      split at h
      · obtain ⟨entries, hboth, rfl⟩ := map_eq_ok.mp (mapError_eq_ok.mp h)
        exact hentries entries hboth
      · exact .leaf (ne_map_of_map_eq_ok (mapError_eq_ok.mp h) fun _ _ => nofun)
      · cases h
      · cases h
      · cases h
      · obtain ⟨text, -, h⟩ := bind_eq_ok.mp h
        exact .leaf (Scalar.value_ne_map (mapError_eq_ok.mp h))

theorem valuesKeyed_ownOf (es : List (Node × Node)) {own : Entries} (h : ownOf es = .ok own) :
    ValuesKeyed own := by
  match es with
  | [] =>
      rw [ownOf] at h
      cases h
      nofun
  | (k, v) :: rest =>
      rw [ownOf] at h
      split at h
      · exact valuesKeyed_ownOf rest h
      · obtain ⟨e, tail, he, htail, rfl⟩ := Outcome.both_eq_ok.mp h
        intro e' he'
        rcases List.mem_cons.mp he' with rfl | he'
        · exact wellKeyed_of_entryOf he fun w => wellKeyed_valueOf v
        · exact valuesKeyed_ownOf rest htail e' he'

/-- Entries that are taken over come from mappings, whose values are well keyed. -/
theorem valuesKeyed_mergedOf (es : List (Node × Node)) {merged : Entries}
    (h : mergedOf es = .ok merged) : ValuesKeyed merged := by
  match es with
  | [] =>
      rw [mergedOf] at h
      cases h
      nofun
  | (k, v) :: rest =>
      rw [mergedOf.eq_def] at h
      simp only at h
      split at h
      · obtain ⟨taken, tail, htaken, htail, rfl⟩ := Outcome.both_eq_ok.mp h
        refine ValuesKeyed.append ?_ (valuesKeyed_mergedOf rest htail)
        match v with
        | .mapping _ fs =>
            obtain ⟨front, behind, hfront, hbehind, rfl⟩ := Outcome.both_eq_ok.mp htaken
            exact (valuesKeyed_mergedOf fs hfront).append (valuesKeyed_ownOf fs hbehind)
        | .sequence _ items => exact valuesKeyed_mergedAllOf items htaken
        | .scalar _ _ => cases htaken
      · exact valuesKeyed_mergedOf rest h

theorem valuesKeyed_mergedAllOf (nodes : List Node) {merged : Entries}
    (h : mergedAllOf nodes = .ok merged) : ValuesKeyed merged := by
  match nodes with
  | [] =>
      rw [mergedAllOf] at h
      cases h
      nofun
  | .mapping _ es :: rest =>
      rw [mergedAllOf] at h
      obtain ⟨front, behind, hfront, hbehind, rfl⟩ := Outcome.both_eq_ok.mp h
      obtain ⟨inner, own, hinner, hown, rfl⟩ := Outcome.both_eq_ok.mp hfront
      exact (valuesKeyed_mergedAllOf rest hbehind).append
        ((valuesKeyed_mergedOf es hinner).append (valuesKeyed_ownOf es hown))
  | .scalar _ _ :: _ | .sequence _ _ :: _ =>
      simp [mergedAllOf, Outcome.misfit, Outcome.fail] at h

end

end Node

/-- **Documents that can be read are well keyed.** -/
theorem wellKeyed_of_read? {text : String} {v : Value} (h : read? text = .ok v) : v.WellKeyed := by
  unfold read? at h
  simp only at h
  split at h
  · cases h
  · obtain ⟨root, -, h⟩ := bind_eq_ok.mp h
    split at h
    · cases h
      exact .leaf nofun
    · exact Node.wellKeyed_valueOf _ (mapError_eq_ok.mp h)

end Criteria.Yaml
