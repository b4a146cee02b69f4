import Criteria.Proofs.Calendar.Civil
import Criteria.Store.Cell
import Mathlib.Data.String.Basic

/-!
# The order of stored moments

A moment is stored as a text of fields of fixed widths, the coarser ones first. Texts of one such form are in
the order of their fields (`layFields_lt`), and the fields of a moment are in the order of its reading
(`DateTime.fields_lt`). So the store, which compares texts, orders moments as clocks do
(`DateTime.compare_storedText`).
-/

namespace Criteria

/-! ## Texts of equal length -/

/-- Of texts of one length the order decides, whatever is behind them. -/
theorem append_lt_append {α : Type} [LT α] {a b : List α} (hlength : a.length = b.length) (h : a < b)
    (s t : List α) : a ++ s < b ++ t := by
  induction a generalizing b with
  | nil =>
      obtain rfl := List.length_eq_zero_iff.mp hlength.symm
      exact absurd h (List.not_lt_nil _)
  | cons x rest ih =>
      cases b with
      | nil => cases hlength
      | cons y others =>
          rw [List.cons_append, List.cons_append, List.cons_lt_cons_iff]
          rcases List.cons_lt_cons_iff.mp h with hxy | ⟨rfl, hrest⟩
          · exact .inl hxy
          · exact .inr ⟨rfl, ih (Nat.succ.inj hlength) hrest⟩

/-! ## Numbers of a fixed width -/

theorem toList_padded (width n : Nat) :
    (padded width n).toList =
      List.replicate (width - (Nat.toDigits 10 n).length) '0' ++ Nat.toDigits 10 n := by
  simp [padded, Nat.repr_eq_ofList_toDigits]

/-- A number of several digits ends with its last digit. -/
theorem toList_padded_succ {width : Nat} (hwidth : 0 < width) (n : Nat) :
    (padded (width + 1) n).toList = (padded width (n / 10)).toList ++ [(n % 10).digitChar] := by
  simp only [toList_padded]
  rw [Nat.toDigits_eq_if (by decide : 1 < 10) (n := n)]
  by_cases hn : n < 10
  · have hzero : Nat.toDigits 10 0 = ['0'] := by decide
    have hdiv : n / 10 = 0 := by omega
    have hmod : n % 10 = n := by omega
    obtain ⟨w, rfl⟩ : ∃ w, width = w + 1 := ⟨width - 1, by omega⟩
    simp [hn, hdiv, hmod, hzero, List.replicate_succ']
  · rw [if_neg hn, List.length_append, List.length_singleton, Nat.add_sub_add_right, List.append_assoc]

theorem length_padded {width n : Nat} (hwidth : 0 < width) (hn : n < 10 ^ width) :
    (padded width n).toList.length = width := by
  have hdigits := (Nat.length_toDigits_le_iff (by decide : 1 < 10) hwidth).mpr hn
  rw [toList_padded, List.length_append, List.length_replicate]
  omega

theorem digitChar_lt {m n : Nat} (h : m < n) (hn : n < 10) : m.digitChar < n.digitChar := by
  have hall : ∀ n < 10, ∀ m < n, m.digitChar < n.digitChar := by decide
  exact hall n hn m h

/-- Numbers of one width are in the order of their texts. -/
theorem padded_lt {width m n : Nat} (hwidth : 0 < width) (hn : n < 10 ^ width) (h : m < n) :
    (padded width m).toList < (padded width n).toList := by
  induction width generalizing m n with
  | zero => cases hwidth
  | succ w ih =>
      by_cases hw : w = 0
      · subst hw
        have hone : ∀ k < 10, (padded 1 k).toList = [k.digitChar] := by decide +kernel
        rw [hone m (by omega), hone n (by omega)]
        exact List.cons_lt_cons_iff.mpr (.inl (digitChar_lt h (by omega)))
      · have hpositive : 0 < w := by omega
        have htens : n / 10 < 10 ^ w := by
          rw [Nat.pow_succ] at hn
          omega
        rw [toList_padded_succ hpositive, toList_padded_succ hpositive]
        by_cases hsame : m / 10 = n / 10
        · -- All digits but the last agree.
          rw [hsame]
          refine List.append_left_lt ?_
          exact List.cons_lt_cons_iff.mpr (.inl (digitChar_lt (by omega) (by omega)))
        · -- The digits before the last decide.
          refine append_lt_append ?_ (ih hpositive htens (by omega)) _ _
          rw [length_padded hpositive htens, length_padded hpositive (by omega)]

/-! ## Fields -/

/-- Numbers laid out in fields, each of some width and with a mark behind it. -/
def layFields : List (Nat × List Char) → List Nat → List Char
  | (width, mark) :: shape, n :: ns => (padded width n).toList ++ (mark ++ layFields shape ns)
  | _, _ => []

/-- Whether numbers have room in the fields of a shape. -/
abbrev Fits (shape : List (Nat × List Char)) (ns : List Nat) : Prop :=
  List.Forall₂ (fun (field : Nat × List Char) n => 0 < field.1 ∧ n < 10 ^ field.1) shape ns

/-- Texts of one shape are in the order of their fields. -/
theorem layFields_lt {shape : List (Nat × List Char)} {ms ns : List Nat} (hms : Fits shape ms)
    (hns : Fits shape ns) (h : ms < ns) : layFields shape ms < layFields shape ns := by
  induction hms generalizing ns with
  | nil =>
      cases hns
      exact absurd h (List.lt_irrefl _)
  | @cons field m shape ms hm _ ih =>
      obtain ⟨width, mark⟩ := field
      cases hns with
      | @cons _ n _ ns hn hrest =>
          rcases List.cons_lt_cons_iff.mp h with hmn | ⟨rfl, hmsns⟩
          · refine append_lt_append ?_ (padded_lt hm.1 hn.2 hmn) _ _
            rw [length_padded hm.1 hm.2, length_padded hn.1 hn.2]
          · exact List.append_left_lt (List.append_left_lt (ih hrest hmsns))

/-! ## Moments -/

namespace DateTime

/-- The fields of a stored moment, with the marks between them. -/
def storedShape : List (Nat × List Char) :=
  [(4, ['-']), (2, ['-']), (2, [' ']), (2, [':']), (2, [':']), (2, ['.']), (6, [])]

/-- Date and time of day, the coarser fields first. -/
def fields (t : DateTime) : List Nat :=
  t.date.fields ++ [t.time.hour, t.time.minute, t.time.second, t.time.micro]

theorem toList_storedText (t : DateTime) : t.storedText.toList = layFields storedShape t.fields := by
  simp [storedText, TimeOfDay.storedText, Date.toText, layFields, storedShape, fields, Date.fields]

/-- The numbers of a moment have room in its stored form. -/
theorem fits_fields (t : DateTime) : Fits storedShape t.fields := by
  obtain ⟨hyear, hmonth, hday⟩ := t.date.fields_fit
  have hmicros := t.time.micros_lt
  simp only [fields, Date.fields, storedShape, Fits, List.cons_append, List.nil_append,
    List.forall₂_cons, List.Forall₂.nil, TimeOfDay.hour, TimeOfDay.minute, TimeOfDay.second,
    TimeOfDay.micro, and_true]
  omega

/-- An earlier reading has earlier fields. -/
theorem fields_lt {s t : DateTime} (h : s.micros < t.micros) : s.fields < t.fields := by
  have hs : s.micros = s.day * microsPerDay + (s.time.micros : Nat) := by
    simp only [day, time, microsPerDay]
    omega
  have ht : t.micros = t.day * microsPerDay + (t.time.micros : Nat) := by
    simp only [day, time, microsPerDay]
    omega
  have hslt := s.time.micros_lt
  have htlt := t.time.micros_lt
  simp only [microsPerDay] at hs ht
  by_cases hday : s.day = t.day
  · -- On one day the time of day decides.
    have hdate : s.date = t.date := by simp only [date, hday]
    rw [fields, fields, hdate]
    refine List.append_left_lt ?_
    simp only [List.cons_lt_cons_iff, List.lt_irrefl, TimeOfDay.hour, TimeOfDay.minute,
      TimeOfDay.second, TimeOfDay.micro]
    omega
  · -- On different days the fields of the dates do.
    have hlength : s.date.fields.length = t.date.fields.length := rfl
    have hdate : s.date.day < t.date.day := by
      show s.day < t.day
      omega
    exact append_lt_append hlength (Date.fields_lt hdate) _ _

/-- The offset of a clock is not stored. -/
theorem storedText_congr {s t : DateTime} (h : s.micros = t.micros) : s.storedText = t.storedText := by
  simp only [storedText, date, time, day, h]

/-- **Stored moments are in the order of their readings.** -/
theorem compare_storedText (s t : DateTime) :
    Cell.compareText s.storedText t.storedText = compare s.micros t.micros := by
  have hlt : ∀ {s t : DateTime}, s.micros < t.micros → s.storedText < t.storedText := by
    intro s t h
    rw [String.lt_iff_toList_lt, toList_storedText, toList_storedText]
    exact layFields_lt s.fits_fields t.fits_fields (fields_lt h)
  rcases lt_trichotomy s.micros t.micros with h | h | h
  · rw [compare_lt_iff_lt.mpr h]
    exact compare_lt_iff_lt.mpr (hlt h)
  · rw [compare_eq_iff_eq.mpr h]
    exact compare_eq_iff_eq.mpr (storedText_congr h)
  · rw [compare_gt_iff_gt.mpr h]
    exact compare_gt_iff_gt.mpr (hlt h)

end DateTime
end Criteria
