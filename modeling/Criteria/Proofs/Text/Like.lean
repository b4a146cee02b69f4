import Criteria.Text.Like
import Mathlib.Data.List.Infix

/-!
# Patterns around a value

A pattern that consists of a literal value with `%` before it, behind it or on both sides fits exactly the texts
that end with the value, begin with it or contain it, where ASCII letters of either case count as one
(`fits_startsWith`, `fits_endsWith`, `fits_contains`). The matcher tries every end of the text at a `%`; what
carries the proofs is that a literal part takes away exactly one part of the text, of the same letters
(`fits_append`).
-/

namespace Criteria.Text

def folded (cs : List Char) : List Char := cs.map Char.toLower

/-- Whether all characters stand for themselves in a pattern. -/
def Literal (cs : List Char) : Prop := ∀ c ∈ cs, c ≠ '%' ∧ c ≠ '_'

instance (cs : List Char) : Decidable (Literal cs) := List.decidableBAll _ _

/-! ## Single steps of the matcher -/

@[simp] theorem fits_nil (text : List Char) : fits [] text = true ↔ text = [] := by
  rw [fits, List.isEmpty_iff]

/-- Some end of a text has a property if a suffix has. -/
theorem anyEnd_eq_true {p : List Char → Bool} {text : List Char} :
    anyEnd p text = true ↔ ∃ rest, rest <:+ text ∧ p rest = true := by
  induction text with
  | nil =>
      rw [anyEnd]
      constructor
      · intro h
        exact ⟨[], List.suffix_refl _, h⟩
      · rintro ⟨rest, hrest, h⟩
        rwa [List.suffix_nil.mp hrest] at h
  | cons c text ih =>
      rw [anyEnd, Bool.or_eq_true, ih]
      constructor
      · rintro (h | ⟨rest, hrest, h⟩)
        · exact ⟨c :: text, List.suffix_refl _, h⟩
        · exact ⟨rest, hrest.trans (List.suffix_cons _ _), h⟩
      · rintro ⟨rest, hrest, h⟩
        rcases List.suffix_cons_iff.mp hrest with rfl | hrest
        · exact .inl h
        · exact .inr ⟨rest, hrest, h⟩

/-- A percent sign stands for whatever stands before a fitting end. -/
theorem fits_percent {pattern text : List Char} :
    fits ('%' :: pattern) text = true ↔ ∃ rest, rest <:+ text ∧ fits pattern rest = true := by
  rw [fits, anyEnd_eq_true]

theorem fits_percent_end (text : List Char) : fits ['%'] text = true := by
  rw [fits_percent]
  exact ⟨[], List.nil_suffix, (fits_nil []).mpr rfl⟩

/-- A literal character stands for one character of the same letter. -/
theorem fits_cons {c : Char} (hpercent : c ≠ '%') (hany : c ≠ '_') {pattern text : List Char} :
    fits (c :: pattern) text = true ↔
      ∃ d rest, text = d :: rest ∧ d.toLower = c.toLower ∧ fits pattern rest = true := by
  cases text with
  | nil => simp [fits]
  | cons d rest =>
      have hstep : fits (c :: pattern) (d :: rest) = ((c == '_' || alike c d) && fits pattern rest) := by
        simp [fits]
      rw [hstep]
      simp only [alike, Bool.and_eq_true, Bool.or_eq_true, beq_iff_eq, hany, false_or]
      constructor
      · rintro ⟨hd, h⟩
        exact ⟨d, rest, rfl, hd.symm, h⟩
      · rintro ⟨d', rest', htext, hd, h⟩
        cases htext
        exact ⟨hd.symm, h⟩

/-! ## Literal parts -/

/-- A literal part of a pattern takes away a part of the text that has the same letters. -/
theorem fits_append {v : List Char} (hv : Literal v) (pattern text : List Char) :
    fits (v ++ pattern) text = true ↔
      ∃ s rest, text = s ++ rest ∧ folded s = folded v ∧ fits pattern rest = true := by
  induction v generalizing text with
  | nil =>
      constructor
      · intro h
        exact ⟨[], text, rfl, rfl, h⟩
      · rintro ⟨s, rest, rfl, hs, h⟩
        obtain rfl : s = [] := List.map_eq_nil_iff.mp hs
        exact h
  | cons c v ih =>
      -- A literal character takes away one character of the text.
      obtain ⟨⟨hpercent, hany⟩, hrest⟩ := List.forall_mem_cons.mp hv
      rw [List.cons_append, fits_cons hpercent hany]
      constructor
      · rintro ⟨d, text, rfl, hd, h⟩
        obtain ⟨s, rest, rfl, hs, h⟩ := (ih hrest text).mp h
        exact ⟨d :: s, rest, rfl, congrArg₂ List.cons hd hs, h⟩
      · rintro ⟨s, rest, rfl, hs, h⟩
        obtain ⟨d, s, rfl, hd, hs⟩ := List.map_eq_cons_iff.mp hs
        exact ⟨d, s ++ rest, rfl, hd, (ih hrest _).mpr ⟨s, rest, rfl, hs, h⟩⟩

/-- A literal pattern fits the texts of its letters. -/
theorem fits_literal {v : List Char} (hv : Literal v) (text : List Char) :
    fits v text = true ↔ folded text = folded v := by
  have happend := fits_append hv [] text
  rw [List.append_nil] at happend
  rw [happend]
  constructor
  · rintro ⟨s, rest, rfl, hs, h⟩
    rw [(fits_nil rest).mp h, List.append_nil, hs]
  · intro h
    exact ⟨text, [], (List.append_nil text).symm, h, (fits_nil []).mpr rfl⟩

/-! ## Values between wildcards -/

variable {v : List Char} (hv : Literal v) (text : List Char)

include hv

/-- With a wildcard behind it a literal is looked for at the start. -/
theorem fits_startsWith : fits (v ++ ['%']) text = true ↔ folded v <+: folded text := by
  rw [fits_append hv]
  constructor
  · rintro ⟨s, rest, rfl, hs, -⟩
    exact ⟨folded rest, by rw [← hs, folded, folded, folded, List.map_append]⟩
  · rintro ⟨t, ht⟩
    obtain ⟨s, rest, rfl, hs, -⟩ := List.map_eq_append_iff.mp ht.symm
    exact ⟨s, rest, rfl, hs, fits_percent_end rest⟩

/-- With a wildcard before it, at the end. -/
theorem fits_endsWith : fits ('%' :: v) text = true ↔ folded v <:+ folded text := by
  rw [fits_percent]
  constructor
  · rintro ⟨rest, ⟨s, rfl⟩, h⟩
    rw [fits_literal hv] at h
    exact ⟨folded s, by rw [← h, folded, folded, folded, List.map_append]⟩
  · rintro ⟨t, ht⟩
    obtain ⟨s, rest, rfl, -, hrest⟩ := List.map_eq_append_iff.mp ht.symm
    exact ⟨rest, List.suffix_append _ _, (fits_literal hv rest).mpr hrest⟩

/-- With one on either side, anywhere. -/
theorem fits_contains : fits ('%' :: (v ++ ['%'])) text = true ↔ folded v <:+: folded text := by
  rw [fits_percent]
  constructor
  · rintro ⟨rest, hrest, h⟩
    rw [fits_startsWith hv] at h
    exact h.isInfix.trans (hrest.map Char.toLower).isInfix
  · rintro ⟨s, t, ht⟩
    -- What the value stands in is the text behind some beginning, and that begins with the value.
    obtain ⟨first, last, rfl, hfirst, -⟩ := List.map_eq_append_iff.mp ht.symm
    obtain ⟨before, rest, rfl, -, hrest⟩ := List.map_eq_append_iff.mp hfirst
    refine ⟨rest ++ last, ⟨before, by simp⟩, (fits_startsWith hv _).mpr ⟨folded last, ?_⟩⟩
    rw [← hrest, folded, folded, List.map_append]

end Criteria.Text
