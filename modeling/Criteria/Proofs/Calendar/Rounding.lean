import Criteria.Query.Modifier
import Mathlib.Algebra.Order.Group.Unbundled.Int

/-!
# Moments on a grid

Rounding by a step takes a moment to the start of the window in which it lies. Windows follow each other from
the epoch in both directions, each as long as the step, and on clocks with an offset they are windows of
universal time. `roundMoment_eq_ok` says when there is a result and which one; what follows for the order of
moments, for rounding again and for a coarser grid is put together in `rounding_is_floor`.
-/

namespace Criteria

namespace DateTime

/-! ## The order of moments -/

/-- Readings of clocks that all have an offset, or all have none, are in the order of their instants; other
readings are in no order. -/
structure AtMost (v w : DateTime) : Prop where
  comparable : v.offset.isSome = w.offset.isSome
  le : v.instant ≤ w.instant

/-- The same moment, possibly on clocks with different offsets. -/
structure SameMoment (v w : DateTime) : Prop where
  comparable : v.offset.isSome = w.offset.isSome
  eq : v.instant = w.instant

/-- Moments in one window of a step, the windows being counted from the epoch. -/
structure SameWindow (step : Int) (v w : DateTime) : Prop where
  comparable : v.offset.isSome = w.offset.isSome
  window : ∃ k : Int, (k * step ≤ v.instant ∧ v.instant < k * step + step) ∧
    (k * step ≤ w.instant ∧ w.instant < k * step + step)

/-! ## Starts of windows -/

/-- The reading `r` of the clock of `t` at the start of the window in which `t` lies. -/
structure WindowStart (step : Int) (t r : DateTime) : Prop where
  offset : r.offset = t.offset
  onGrid : step ∣ r.instant
  le : r.instant ≤ t.instant
  lt : t.instant < r.instant + step

/-- Of two points of a grid, one that comes less than a step after the other is no later. -/
theorem le_of_lt_add {step m n : Int} (hstep : 0 < step) (hm : step ∣ m) (hn : step ∣ n)
    (h : m < n + step) : m ≤ n := by
  obtain ⟨k, rfl⟩ := hm
  obtain ⟨l, rfl⟩ := hn
  have hkl : step * k < step * (l + 1) := by
    rw [Int.mul_add, Int.mul_one]
    exact h
  have hlt : k < l + 1 := Int.lt_of_mul_lt_mul_left hkl (by omega)
  exact Int.mul_le_mul_of_nonneg_left (by omega) (by omega)

/-- A moment is made of its reading and its offset. -/
theorem ofMicros?_eq_some {micros : Int} {offset : Option Int} {t : DateTime} :
    ofMicros? micros offset = some t ↔ t.micros = micros ∧ t.offset = offset := by
  unfold ofMicros?
  split
  · constructor
    · rintro ⟨⟩
      exact ⟨rfl, rfl⟩
    · rintro ⟨rfl, rfl⟩
      rfl
  · rename_i h
    constructor
    · rintro ⟨⟩
    · rintro ⟨rfl, -⟩
      exact absurd ⟨t.firstMicro_le, t.le_lastMicro⟩ h

/-- On one clock, readings are apart as their instants are. -/
theorem instant_sub_instant {t r : DateTime} (h : r.offset = t.offset) :
    t.instant - r.instant = t.micros - r.micros := by
  simp only [instant, h]
  omega

namespace WindowStart

variable {step fine coarse : Int} {t r v w a b : DateTime}

theorem comparable (h : WindowStart step t r) : r.offset.isSome = t.offset.isSome := by rw [h.offset]

/-- What lies on the grid is the start of its own window. -/
theorem refl (hstep : 0 < step) (h : step ∣ t.instant) : WindowStart step t t :=
  ⟨rfl, h, Int.le_refl _, by omega⟩

/-- The start of the window of an instant is what is left of it without its remainder. -/
theorem instant_eq (hstep : 0 < step) (h : WindowStart step t r) :
    r.instant = t.instant - t.instant % step := by
  have hle := h.le
  have hlt := h.lt
  have hnonneg := Int.emod_nonneg t.instant (by omega : step ≠ 0)
  have hsmall := Int.emod_lt_of_pos t.instant hstep
  have hgrid : step ∣ t.instant - t.instant % step := Int.dvd_self_sub_emod
  have hr := le_of_lt_add hstep h.onGrid hgrid (by omega)
  have ht := le_of_lt_add hstep hgrid h.onGrid (by omega)
  omega

/-- Rounding gives the start of the window, and fails exactly where the clock cannot show it. -/
theorem iff_floorTo? (hstep : 0 < step) : t.floorTo? step = some r ↔ WindowStart step t r := by
  rw [floorTo?, ofMicros?_eq_some]
  constructor
  · rintro ⟨hmicros, hoffset⟩
    have happart := instant_sub_instant hoffset
    have hinstant : r.instant = t.instant - t.instant % step := by omega
    have hnonneg := Int.emod_nonneg t.instant (by omega : step ≠ 0)
    have hsmall := Int.emod_lt_of_pos t.instant hstep
    refine ⟨hoffset, ?_, by omega, by omega⟩
    rw [hinstant]
    exact Int.dvd_self_sub_emod
  · intro h
    have happart := instant_sub_instant h.offset
    have hinstant := h.instant_eq hstep
    exact ⟨by omega, h.offset⟩

/-- A later moment has no earlier window. -/
theorem mono (hstep : 0 < step) (hv : WindowStart step v a) (hw : WindowStart step w b)
    (h : v.instant ≤ w.instant) : a.instant ≤ b.instant := by
  have hav := hv.le
  have hwb := hw.lt
  exact le_of_lt_add hstep hv.onGrid hw.onGrid (by omega)

/-- Windows begin together exactly if they are one window. -/
theorem sameMoment_iff (hstep : 0 < step) (hv : WindowStart step v a) (hw : WindowStart step w b) :
    a.SameMoment b ↔ SameWindow step v w := by
  constructor
  · intro h
    obtain ⟨k, hk⟩ := hv.onGrid
    have hstart : k * step = a.instant := by rw [hk, Int.mul_comm]
    have hsame := h.eq
    refine ⟨?_, k, ?_, ?_⟩
    · rw [← hv.comparable, ← hw.comparable]
      exact h.comparable
    · rw [hstart]
      exact ⟨hv.le, hv.lt⟩
    · rw [hstart, hsame]
      exact ⟨hw.le, hw.lt⟩
  · rintro ⟨hcomparable, k, hkv, hkw⟩
    have hgrid : step ∣ k * step := Int.dvd_mul_left k step
    -- Both windows begin where the common one does.
    have hstart : ∀ {x y : DateTime}, WindowStart step x y →
        k * step ≤ x.instant ∧ x.instant < k * step + step → y.instant = k * step := by
      intro x y hxy hkx
      have hle := hxy.le
      have hlt := hxy.lt
      have hyk := le_of_lt_add hstep hxy.onGrid hgrid (by omega)
      have hky := le_of_lt_add hstep hgrid hxy.onGrid (by omega)
      omega
    refine ⟨?_, ?_⟩
    · rw [hv.comparable, hw.comparable]
      exact hcomparable
    · rw [hstart hv hkv, hstart hw hkw]

/-- Where a grid has all points of a coarser one, its window begins inside the coarser window. -/
theorem exists_finer (hfine : 0 < fine) (hdvd : fine ∣ coarse) (h : WindowStart coarse t r) :
    ∃ q, WindowStart fine t q ∧ WindowStart coarse q r := by
  have hle := h.le
  have hlt := h.lt
  have hnonneg := Int.emod_nonneg t.instant (by omega : fine ≠ 0)
  have hsmall := Int.emod_lt_of_pos t.instant hfine
  have hbetween : r.instant ≤ t.instant - t.instant % fine :=
    le_of_lt_add hfine (Int.dvd_trans hdvd h.onGrid) Int.dvd_self_sub_emod (by omega)
  -- The finer start lies between two readings that the clock shows.
  have happart := instant_sub_instant h.offset
  have hfirst := r.firstMicro_le
  have hlast := t.le_lastMicro
  obtain ⟨q, hq⟩ : ∃ q, t.floorTo? fine = some q :=
    ⟨⟨t.micros - t.instant % fine, t.offset, by omega, by omega⟩, ofMicros?_eq_some.mpr ⟨rfl, rfl⟩⟩
  have hstart := (iff_floorTo? hfine).mp hq
  have hinstant := hstart.instant_eq hfine
  refine ⟨q, hstart, ⟨h.offset.trans hstart.offset.symm, h.onGrid, by omega, by omega⟩⟩

end WindowStart
end DateTime

/-! ## Rounding by seconds -/

open DateTime

/-- A whole number of seconds makes a length of time if it comes to less than a milliard of days. -/
def hasLength (s : Int) : Bool := s < 86400 * 1000000000

/-- A whole number of seconds is a step unless it makes no length of time. -/
theorem stepMicros_int {s : Int} (hs : 0 < s) :
    stepMicros (.int s) =
      if hasLength s then .ok (s * microsPerSecond) else .error (.stepTooLong (s / 86400)) := by
  have hlength : (-999999999 ≤ s / 86400 ∧ s / 86400 ≤ 999999999) ↔ hasLength s = true := by
    simp only [hasLength, decide_eq_true_eq]
    omega
  simp only [stepMicros, hlength]
  rfl

/-- A moment can be rounded by a number of seconds exactly if that is a length of time and the clock can show
the start of the window, which then is the result. -/
theorem roundMoment_eq_ok {s : Int} {v r : DateTime} (hs : 0 < s) :
    roundMoment (.int s) v = .ok r ↔ hasLength s = true ∧ WindowStart (s * microsPerSecond) v r := by
  have hstep : 0 < s * microsPerSecond := by
    simp only [microsPerSecond]
    omega
  rw [← WindowStart.iff_floorTo? hstep]
  simp only [roundMoment, stepMicros_int hs]
  cases hasLength s with
  | false => simp [bind, Except.bind]
  | true =>
      simp only [if_true, bind, Except.bind, if_neg (by omega : s * microsPerSecond ≠ 0)]
      cases v.floorTo? (s * microsPerSecond) with
      | none => simp
      | some u => simp

/-- **Rounding is the floor on the grid of the step.** A moment is rounded to the start of its window of `s`
seconds: the point of the grid at or before it and less than a step away, on the same clock. So rounding again
changes nothing, moments keep their order and one moment on two clocks stays one, and moments are rounded to
the same exactly if they share a window. Where the grid of `t` seconds is coarser, both orders of rounding by `s`
and by `t` give what rounding by `t` gives. -/
theorem rounding_is_floor {s : Int} (hs : 0 < s) :
    (∀ v r, roundMoment (.int s) v = .ok r ↔
      hasLength s = true ∧ WindowStart (s * microsPerSecond) v r) ∧
    (∀ v r, roundMoment (.int s) v = .ok r → roundMoment (.int s) r = .ok r) ∧
    (∀ v w a b, roundMoment (.int s) v = .ok a → roundMoment (.int s) w = .ok b →
      (v.AtMost w → a.AtMost b) ∧ (v.SameMoment w → a.SameMoment b) ∧
      (a.SameMoment b ↔ SameWindow (s * microsPerSecond) v w)) ∧
    ∀ t v r, 0 < t → s ∣ t → roundMoment (.int t) v = .ok r →
      (∃ q, roundMoment (.int s) v = .ok q ∧ roundMoment (.int t) q = .ok r) ∧
      roundMoment (.int s) r = .ok r := by
  have hstep : 0 < s * microsPerSecond := by
    simp only [microsPerSecond]
    omega
  refine ⟨fun v r => roundMoment_eq_ok hs, ?_, ?_, ?_⟩
  · intro v r h
    obtain ⟨hlength, hstart⟩ := (roundMoment_eq_ok hs).mp h
    exact (roundMoment_eq_ok hs).mpr ⟨hlength, .refl hstep hstart.onGrid⟩
  · intro v w a b ha hb
    obtain ⟨-, ha⟩ := (roundMoment_eq_ok hs).mp ha
    obtain ⟨-, hb⟩ := (roundMoment_eq_ok hs).mp hb
    have hcomparable : v.offset.isSome = w.offset.isSome → a.offset.isSome = b.offset.isSome := by
      intro h
      rw [ha.comparable, hb.comparable, h]
    refine ⟨?_, ?_, ha.sameMoment_iff hstep hb⟩
    · intro h
      exact ⟨hcomparable h.comparable, ha.mono hstep hb h.le⟩
    · intro h
      have hab := ha.mono hstep hb (Int.le_of_eq h.eq)
      have hba := hb.mono hstep ha (Int.le_of_eq h.eq.symm)
      exact ⟨hcomparable h.comparable, Int.le_antisymm hab hba⟩
  · intro t v r ht hdvd h
    obtain ⟨hlength, hstart⟩ := (roundMoment_eq_ok ht).mp h
    have hgrid : s * microsPerSecond ∣ t * microsPerSecond := Int.mul_dvd_mul_right microsPerSecond hdvd
    -- A divisor of a length of time is one.
    have hshorter : hasLength s = true := by
      have hle := Int.le_of_dvd ht hdvd
      simp only [hasLength, decide_eq_true_eq] at hlength ⊢
      omega
    obtain ⟨q, hfine, hcoarse⟩ := hstart.exists_finer hstep hgrid
    refine ⟨⟨q, ?_, ?_⟩, ?_⟩
    · exact (roundMoment_eq_ok hs).mpr ⟨hshorter, hfine⟩
    · exact (roundMoment_eq_ok ht).mpr ⟨hlength, hcoarse⟩
    · exact (roundMoment_eq_ok hs).mpr ⟨hshorter, .refl hstep (Int.dvd_trans hgrid hstart.onGrid)⟩

/-- Half a second before the epoch, shown by a clock two hours ahead, is rounded by 7 and by 21 seconds. -/
theorem rounded_before_epoch :
    let v : DateTime := ⟨7199500000, some 7200000000, by decide, by decide⟩
    let a : DateTime := ⟨7193000000, some 7200000000, by decide, by decide⟩
    let r : DateTime := ⟨7179000000, some 7200000000, by decide, by decide⟩
    WindowStart (7 * microsPerSecond) v a ∧ roundMoment (.int 7) a = .ok a ∧
      (∃ q, roundMoment (.int 7) v = .ok q ∧ roundMoment (.int 21) q = .ok r) ∧
      SameWindow (7 * microsPerSecond) v a := by
  intro v a r
  obtain ⟨hresult, hagain, hpairs, hcoarser⟩ := rounding_is_floor (by decide : (0 : Int) < 7)
  have hv : roundMoment (.int 7) v = .ok a := rfl
  have hr : roundMoment (.int 21) v = .ok r := rfl
  obtain ⟨-, -, hwindow⟩ := hpairs v a a a hv (hagain v a hv)
  refine ⟨((hresult v a).mp hv).2, hagain v a hv, ?_, hwindow.mp ⟨rfl, rfl⟩⟩
  exact (hcoarser 21 v r (by decide) (by decide) hr).1

end Criteria
