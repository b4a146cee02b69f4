import Criteria.Calendar.Date
import Mathlib.Algebra.Order.Group.Basic
import Mathlib.Algebra.Order.Group.Unbundled.Int

/-!
# Civil dates in order

Years of the civil calendar begin where the count of leap days says (`yearOfEra_bounds`), and within them months
follow each other without a gap, so that every day lies in exactly the month that its civil date names
(`exists_month`). Hence civil dates, read as year, month and day, are in the order of their days
(`Date.fields_lt`), and each of the three has the width in which it is written (`Date.fields_fit`).
-/

namespace Criteria

/-! ## Years of an era -/

/-- A day of an era by its century, its four years within that and its day within those. -/
theorem exists_centuries {e : Int} (h0 : 0 ≤ e) (h1 : e < 146097) :
    ∃ c q t : Int, (0 ≤ c ∧ c ≤ 3) ∧ (0 ≤ q ∧ q ≤ 24) ∧ (0 ≤ t ∧ t ≤ 1460) ∧
      e = 36524 * c + 1461 * q + t ∧ (q = 24 → t = 1460 → c = 3) := by
  by_cases hlast : e = 146096
  · exact ⟨3, 24, 1460, by omega, by omega, by omega, by omega, by omega⟩
  · exact ⟨e / 36524, e % 36524 / 1461, e % 36524 % 1461, by omega, by omega, by omega, by omega, by omega⟩

/-- The year of an era in which a day lies. -/
def yearOfEra (e : Int) : Int := (e - e / 1460 + e / 36524 - e / 146096) / 365

theorem yearOfEra_eq {c q t k : Int} (hc : 0 ≤ c ∧ c ≤ 3) (hq : 0 ≤ q ∧ q ≤ 24) (ht : 0 ≤ t ∧ t ≤ 1460)
    (hlast : q = 24 → t = 1460 → c = 3) (hk : 0 ≤ k ∧ k ≤ 3) (hle : 365 * k ≤ t)
    (hlt : k < 3 → t < 365 * (k + 1)) :
    yearOfEra (36524 * c + 1461 * q + t) = 100 * c + 4 * q + k := by
  -- Of the leap days before the day, `25 * c + q` are certain and one more is `d`.
  obtain ⟨d, hd, hquarters⟩ : ∃ d : Int, (0 ≤ d ∧ d ≤ 1 ∧ (d = 1 → 365 * k + 1 ≤ t) ∧ (t = 1460 → d = 1)) ∧
      (36524 * c + 1461 * q + t) / 1460 = 25 * c + q + d := by
    refine ⟨(24 * c + q + t) / 1460, by omega, ?_⟩
    have hsplit : 36524 * c + 1461 * q + t = (24 * c + q + t) + 1460 * (25 * c + q) := by omega
    rw [hsplit, Int.add_mul_ediv_left _ _ (by decide)]
    omega
  by_cases hend : q = 24 ∧ t = 1460
  · obtain rfl : c = 3 := hlast hend.1 hend.2
    obtain ⟨rfl, rfl⟩ := hend
    obtain rfl : k = 3 := by omega
    rfl
  · have hcenturies : (36524 * c + 1461 * q + t) / 36524 = c := by omega
    have heras : (36524 * c + 1461 * q + t) / 146096 = 0 := by omega
    have hsplit : 36524 * c + 1461 * q + t - (25 * c + q + d) + c - 0 =
        (t - d) + 365 * (100 * c + 4 * q) := by omega
    rw [yearOfEra, hquarters, hcenturies, heras, hsplit, Int.add_mul_ediv_left _ _ (by decide)]
    omega

/-- A day lies between the first day of its year and that of the next. -/
theorem yearOfEra_bounds {e : Int} (h0 : 0 ≤ e) (h1 : e < 146097) :
    (0 ≤ yearOfEra e ∧ yearOfEra e ≤ 399) ∧
      365 * yearOfEra e + yearOfEra e / 4 - yearOfEra e / 100 ≤ e ∧
      e < 365 * (yearOfEra e + 1) + (yearOfEra e + 1) / 4 - (yearOfEra e + 1) / 100 +
        (yearOfEra e + 1) / 400 := by
  obtain ⟨c, q, t, hc, hq, ht, rfl, hlast⟩ := exists_centuries h0 h1
  -- `k` counts the years in a group of four, of which the last may be a day longer.
  obtain ⟨k, hk, hle, hlt⟩ : ∃ k : Int, (0 ≤ k ∧ k ≤ 3) ∧ 365 * k ≤ t ∧ (k < 3 → t < 365 * (k + 1)) :=
    ⟨min (t / 365) 3, by omega, by omega, by omega⟩
  rw [yearOfEra_eq hc hq ht hlast hk hle hlt]
  have h4 : (100 * c + 4 * q + k) / 4 = 25 * c + q := by omega
  have h100 : (100 * c + 4 * q + k) / 100 = c := by omega
  refine ⟨by omega, by omega, ?_⟩
  -- The year after the last of a group begins the next group, and after the last group the next century.
  by_cases hk3 : k = 3
  · subst hk3
    have h4' : (100 * c + 4 * q + 3 + 1) / 4 = 25 * c + q + 1 := by omega
    by_cases hq24 : q = 24
    · subst hq24
      have h100' : (100 * c + 4 * 24 + 3 + 1) / 100 = c + 1 := by omega
      have h400' : (100 * c + 4 * 24 + 3 + 1) / 400 = if c = 3 then 1 else 0 := by
        split <;> omega
      rw [h4', h100', h400']
      split <;> omega
    · have h100' : (100 * c + 4 * q + 3 + 1) / 100 = c := by omega
      omega
  · have h4' : (100 * c + 4 * q + k + 1) / 4 = 25 * c + q := by omega
    have h100' : (100 * c + 4 * q + k + 1) / 100 = c := by omega
    omega

/-! ## Months -/

/-- The day on which a month begins; months are counted from March of the year 0. -/
def monthStart (k : Int) : Int :=
  365 * (k / 12) + k / 12 / 4 - k / 12 / 100 + k / 12 / 400 + (153 * (k % 12) + 2) / 5 - 719468

/-- A month has at least one day and at most 31. -/
theorem monthStart_succ (k : Int) :
    monthStart k < monthStart (k + 1) ∧ monthStart (k + 1) ≤ monthStart k + 31 := by
  unfold monthStart
  by_cases hlast : k % 12 = 11
  · have hyear : (k + 1) / 12 = k / 12 + 1 := by omega
    have hmonth : (k + 1) % 12 = 0 := by omega
    rw [hyear, hmonth, hlast]
    omega
  · have hyear : (k + 1) / 12 = k / 12 := by omega
    have hmonth : (k + 1) % 12 = k % 12 + 1 := by omega
    rw [hyear, hmonth]
    omega

theorem monthStart_le {k l : Int} (h : k ≤ l) : monthStart k ≤ monthStart l :=
  (strictMono_int_of_lt_succ fun k => (monthStart_succ k).1).monotone h

/-- Every day lies in a month, which its civil date names, and is so many days into it. -/
theorem exists_month (n : Int) :
    ∃ k, (monthStart k ≤ n ∧ n < monthStart (k + 1)) ∧
      civilOfDay n = ((k + 2) / 12, ((k + 2) % 12 + 1).toNat, (n - monthStart k + 1).toNat) := by
  obtain ⟨era, e, hera, he⟩ : ∃ era e : Int, n + 719468 = e + era * 146097 ∧ 0 ≤ e ∧ e < 146097 :=
    ⟨(n + 719468) / 146097, (n + 719468) % 146097, by omega, by omega, by omega⟩
  have hz : (n + 719468) / 146097 = era := by omega
  have hrest : n + 719468 - era * 146097 = e := by omega
  obtain ⟨hrange, hfirst, hnext⟩ := yearOfEra_bounds he.1 he.2
  generalize hy : yearOfEra e = y at hrange hfirst hnext
  -- The day of the year, and the month counted from March.
  obtain ⟨d, hd⟩ : ∃ d : Int, d = e - (365 * y + y / 4 - y / 100) := ⟨_, rfl⟩
  obtain ⟨m, hm⟩ : ∃ m : Int, m = (5 * d + 2) / 153 := ⟨_, rfl⟩
  have hd0 : 0 ≤ d ∧ d ≤ 365 := by omega
  have hm0 : 0 ≤ m ∧ m ≤ 11 := by omega
  have hcivil : civilOfDay n =
      (y + era * 400 + (if (if m < 10 then m + 3 else m - 9) ≤ 2 then 1 else 0),
        (if m < 10 then m + 3 else m - 9).toNat, (d - (153 * m + 2) / 5 + 1).toNat) := by
    simp only [civilOfDay, hz, hrest]
    rw [← yearOfEra, hy, ← hd, ← hm]
  have hyear : (12 * (y + era * 400) + m) / 12 = y + era * 400 := by omega
  have hmonth : (12 * (y + era * 400) + m) % 12 = m := by omega
  have hstart : monthStart (12 * (y + era * 400) + m) = n - d + (153 * m + 2) / 5 := by
    have h4 : (y + era * 400) / 4 = y / 4 + 100 * era := by omega
    have h100 : (y + era * 400) / 100 = y / 100 + 4 * era := by omega
    have h400 : (y + era * 400) / 400 = era := by omega
    rw [monthStart, hyear, hmonth, h4, h100, h400]
    omega
  refine ⟨12 * (y + era * 400) + m, ⟨?_, ?_⟩, ?_⟩
  · rw [hstart]
    omega
  · by_cases hlast : m = 11
    · -- The last month of a year ends with the year.
      have hyear' : (12 * (y + era * 400) + m + 1) / 12 = y + 1 + era * 400 := by omega
      have hmonth' : (12 * (y + era * 400) + m + 1) % 12 = 0 := by omega
      have h4 : (y + 1 + era * 400) / 4 = (y + 1) / 4 + 100 * era := by omega
      have h100 : (y + 1 + era * 400) / 100 = (y + 1) / 100 + 4 * era := by omega
      have h400 : (y + 1 + era * 400) / 400 = (y + 1) / 400 + era := by omega
      rw [monthStart, hyear', hmonth', h4, h100, h400]
      omega
    · have hyear' : (12 * (y + era * 400) + m + 1) / 12 = y + era * 400 := by omega
      have hmonth' : (12 * (y + era * 400) + m + 1) % 12 = m + 1 := by omega
      rw [monthStart, hyear, hmonth] at hstart
      rw [monthStart, hyear', hmonth']
      omega
  · rw [hcivil, hstart]
    refine Prod.ext ?_ (Prod.ext ?_ ?_)
    · show y + era * 400 + _ = _
      split <;> split at * <;> omega
    · show Int.toNat _ = Int.toNat _
      split <;> omega
    · show Int.toNat _ = Int.toNat _
      congr 1
      omega

/-! ## Dates -/

namespace Date

def fields (d : Date) : List Nat := [d.civil.1.toNat, d.civil.2.1, d.civil.2.2]

/-- The year is one of 1 to 9999, and month and day have two digits. -/
theorem fields_fit (d : Date) : d.civil.1.toNat < 10000 ∧ d.civil.2.1 < 100 ∧ d.civil.2.2 < 100 := by
  obtain ⟨k, ⟨hstart, hend⟩, hcivil⟩ := exists_month d.day
  have hlength := (monthStart_succ k).2
  have hlast := d.le_lastDay
  -- The last month before the year 10000 is December of the year 9999.
  have hk : k < 119998 := by
    by_contra hk
    have hmono := monthStart_le (not_lt.mp hk)
    have hbegin : monthStart 119998 = 2932897 := by decide
    simp only [lastDay] at hlast
    omega
  rw [civil, hcivil]
  refine ⟨?_, ?_, ?_⟩
  · show Int.toNat _ < _
    omega
  · show Int.toNat _ < _
    omega
  · show Int.toNat _ < _
    omega

/-- An earlier day has an earlier year, or an earlier month of the same year, or an earlier day of the same
month. -/
theorem fields_lt {d e : Date} (h : d.day < e.day) : d.fields < e.fields := by
  obtain ⟨k, ⟨hstart, hend⟩, hcivil⟩ := exists_month d.day
  obtain ⟨l, ⟨hstart', hend'⟩, hcivil'⟩ := exists_month e.day
  have hkl : k ≤ l := by
    by_contra hlk
    have hmono := monthStart_le (Int.add_one_le_of_lt (not_le.mp hlk))
    omega
  have hfirst : 10 ≤ k := by
    by_contra hk
    have hmono := monthStart_le (by omega : k + 1 ≤ 10)
    have hbegin : monthStart 10 = -719162 := by decide
    have hday := d.firstDay_le
    simp only [firstDay] at hday
    omega
  simp only [fields, civil, hcivil, hcivil', List.cons_lt_cons_iff, List.lt_irrefl, or_false, and_false]
  by_cases hsame : k = l
  · subst hsame
    omega
  · omega

end Date
end Criteria
