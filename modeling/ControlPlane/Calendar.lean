/-
# The calendar

The date of a day number is exact: it determines the day number (`dayOf_civil`), and later
days have later dates (`civil_lt`).  Years are counted from March, so that the leap day is
the last day of a year and the months before it have fixed lengths.
-/
import ControlPlane.Timestamp
import Mathlib.Order.Monotone.Basic

namespace ControlPlane.Timestamp

/-! ## Years that begin in March -/

/-- The number of days before the March of a year. -/
def yearStart (y : ℤ) : ℤ := 365 * y + y / 4 - y / 100 + y / 400

/-- The year of an era of 400 years, found from the day of the era.  Within a century the
years come in groups of four; `x` is the correction that the division by 1460 makes near
the end of a group. -/
theorem yearOfEra_spec {doe yoe : ℤ} (h0 : 0 ≤ doe) (h1 : doe < 146097)
    (hy : yoe = (doe - doe / 1460 + doe / 36524 - doe / 146096) / 365) :
    0 ≤ yoe ∧ yoe ≤ 399 ∧ 365 * yoe + yoe / 4 - yoe / 100 ≤ doe ∧
      doe < yearStart (yoe + 1) := by
  unfold yearStart
  by_cases hlast : doe = 146096
  · subst hlast
    subst hy
    decide
  · obtain ⟨c, hc⟩ : ∃ c, doe / 36524 = c := ⟨_, rfl⟩
    obtain ⟨q, hq⟩ : ∃ q, (doe - 36524 * c) / 1461 = q := ⟨_, rfl⟩
    obtain ⟨s, hs⟩ : ∃ s, doe = 36524 * c + 1461 * q + s :=
      ⟨doe - 36524 * c - 1461 * q, by omega⟩
    have he : doe / 146096 = 0 := by omega
    have hc0 : 0 ≤ c ∧ c ≤ 3 := by omega
    have hq0 : 0 ≤ q ∧ q ≤ 24 := by omega
    have hs0 : 0 ≤ s ∧ s ≤ 1460 := by omega
    have hs1 : q = 24 → s ≤ 1459 := by omega
    obtain ⟨x, hx⟩ : ∃ x, (24 * c + q + s) / 1460 = x := ⟨_, rfl⟩
    have hx0 : doe / 1460 = 25 * c + q + x := by omega
    have hx1 : 0 ≤ x ∧ x ≤ 1 := by omega
    have hx2 : x = 1 → 1364 ≤ s := by omega
    have hx3 : s = 1460 → x = 1 := by omega
    obtain ⟨j, hj⟩ : ∃ j, (s - x) / 365 = j := ⟨_, rfl⟩
    have hyoe : yoe = 100 * c + 4 * q + j := by
      rw [hy, hx0, hc, he]
      omega
    have hj0 : 0 ≤ j ∧ j ≤ 3 := by omega
    have hj1 : 365 * j ≤ s := by omega
    have hj2 : j < 3 → s < 365 * (j + 1) := by omega
    have h4 : yoe / 4 = 25 * c + q := by omega
    have h100 : yoe / 100 = c := by omega
    refine ⟨by omega, by omega, by omega, ?_⟩
    by_cases hj3 : j = 3
    · have h4' : (yoe + 1) / 4 = 25 * c + q + 1 := by omega
      by_cases hq24 : q = 24
      · have h100' : (yoe + 1) / 100 = c + 1 := by omega
        omega
      · have h100' : (yoe + 1) / 100 = c := by omega
        omega
    · have h4' : (yoe + 1) / 4 = 25 * c + q := by omega
      have h100' : (yoe + 1) / 100 = c := by omega
      omega

/-- A date in terms of its March year and the day of that year. -/
structure MarchDate (day y doy : ℤ) : Prop where
  start : day + 719468 = yearStart y + doy
  nonneg : 0 ≤ doy
  lt : yearStart y + doy < yearStart (y + 1)
  date : civil day =
    (if (5 * doy + 2) / 153 < 10 then
      (y, (5 * doy + 2) / 153 + 3, doy - (153 * ((5 * doy + 2) / 153) + 2) / 5 + 1)
    else
      (y + 1, (5 * doy + 2) / 153 - 9, doy - (153 * ((5 * doy + 2) / 153) + 2) / 5 + 1))

theorem yearStart_mono {y y' : ℤ} (h : y ≤ y') : yearStart y ≤ yearStart y' := by
  unfold yearStart
  omega

/-- Eras repeat. -/
theorem yearStart_add_era (era y : ℤ) :
    yearStart (y + era * 400) = yearStart y + era * 146097 := by
  unfold yearStart
  omega

theorem exists_marchDate (day : ℤ) : ∃ y doy, MarchDate day y doy := by
  obtain ⟨z, hz⟩ : ∃ z, z = day + 719468 := ⟨_, rfl⟩
  obtain ⟨doe, hdoe⟩ : ∃ doe, doe = z % 146097 := ⟨_, rfl⟩
  obtain ⟨yoe, hyoe⟩ : ∃ yoe,
      yoe = (doe - doe / 1460 + doe / 36524 - doe / 146096) / 365 := ⟨_, rfl⟩
  obtain ⟨hy0, hy1, hle, hlt⟩ :=
    @yearOfEra_spec doe yoe (by omega) (by omega) hyoe
  have hsmall : yoe / 400 = 0 := by omega
  have hstart : yearStart yoe = 365 * yoe + yoe / 4 - yoe / 100 := by
    unfold yearStart
    omega
  have hnext := yearStart_add_era (z / 146097) (yoe + 1)
  have hcomm : yoe + z / 146097 * 400 + 1 = yoe + 1 + z / 146097 * 400 := by omega
  obtain ⟨doy, hdoy⟩ : ∃ doy, doy = doe - (365 * yoe + yoe / 4 - yoe / 100) := ⟨_, rfl⟩
  have hdoy1 : doy ≤ 366 := by
    unfold yearStart at hlt
    omega
  refine ⟨yoe + z / 146097 * 400, doy, ?_, by omega, ?_, ?_⟩
  · rw [yearStart_add_era, ← hz]
    omega
  · rw [yearStart_add_era, hcomm, hnext]
    omega
  · unfold civil
    simp only
    rw [← hz, ← hdoe, ← hyoe, ← hdoy]
    by_cases hmp : (5 * doy + 2) / 153 < 10
    · have hmonth : ¬ (5 * doy + 2) / 153 + 3 ≤ 2 := by omega
      simp only [hmp, hmonth, if_true, if_false, add_zero]
    · have hmonth : (5 * doy + 2) / 153 - 9 ≤ 2 := by omega
      simp only [hmp, hmonth, if_true, if_false]

/-- A March year has at most 366 days. -/
theorem MarchDate.doy_le {day y doy : ℤ} (h : MarchDate day y doy) : doy ≤ 365 := by
  have hlt := h.lt
  unfold yearStart at hlt
  omega

/-! ## Dates -/

/-- Months have two digits and so have days. -/
theorem civil_range (day : ℤ) :
    (1 ≤ (civil day).2.1 ∧ (civil day).2.1 ≤ 12) ∧
      1 ≤ (civil day).2.2 ∧ (civil day).2.2 ≤ 31 := by
  obtain ⟨y, doy, h⟩ := exists_marchDate day
  have h0 := h.nonneg
  have h1 := h.doy_le
  rw [h.date]
  split <;> refine ⟨⟨?_, ?_⟩, ?_, ?_⟩ <;> dsimp only <;> omega

/-- **A date determines its day.** -/
theorem dayOf_civil (day : ℤ) :
    dayOf (civil day).1 (civil day).2.1 (civil day).2.2 = day := by
  obtain ⟨y, doy, h⟩ := exists_marchDate day
  have h0 := h.nonneg
  have h1 := h.doy_le
  have hstart := h.start
  rw [h.date]
  obtain ⟨mp, hmp⟩ : ∃ mp, (5 * doy + 2) / 153 = mp := ⟨_, rfl⟩
  rw [hmp]
  unfold yearStart at hstart
  -- the day of the year comes back from the month and the day
  have hdoy : (153 * mp + 2) / 5 + (doy - (153 * mp + 2) / 5 + 1) - 1 = doy := by omega
  have hyear : y / 400 * 146097 + (y % 400 * 365 + y % 400 / 4 - y % 400 / 100 + doy) - 719468 =
      day := by
    have h4 : y / 4 = 100 * (y / 400) + y % 400 / 4 := by omega
    have h100 : y / 100 = 4 * (y / 400) + y % 400 / 100 := by omega
    omega
  unfold dayOf
  by_cases hten : mp < 10
  · have hle : ¬ mp + 3 ≤ 2 := by omega
    have hgt : mp + 3 > 2 := by omega
    have hback : mp + 3 - 3 = mp := by omega
    simp only [hten, if_true, hle, if_false, hgt, hback, hdoy]
    exact hyear
  · have hle : mp - 9 ≤ 2 := by omega
    have hgt : ¬ mp - 9 > 2 := by omega
    have hback : mp - 9 + 9 = mp := by omega
    have hyback : y + 1 - 1 = y := by omega
    simp only [hten, if_false, hle, if_true, hgt, hback, hyback, hdoy]
    exact hyear

/-- The March years, and within a year the days of it, come in the order of the days. -/
theorem MarchDate.lt_iff {a b y doy y' doy' : ℤ} (ha : MarchDate a y doy)
    (hb : MarchDate b y' doy') (h : a < b) : y < y' ∨ y = y' ∧ doy < doy' := by
  have hsa := ha.start
  have hsb := hb.start
  by_cases hlt : y < y'
  · exact Or.inl hlt
  · right
    by_cases heq : y = y'
    · subst heq
      exact ⟨rfl, by omega⟩
    · -- a later year starts after the end of the earlier one
      exfalso
      have hend := hb.lt
      have hnonneg := ha.nonneg
      have hmono : yearStart (y' + 1) ≤ yearStart y := yearStart_mono (by omega)
      omega

/-- **Later days have later dates**, year by year, month by month and day by day. -/
theorem civil_lt {a b : ℤ} (h : a < b) :
    (civil a).1 < (civil b).1 ∨
      (civil a).1 = (civil b).1 ∧ ((civil a).2.1 < (civil b).2.1 ∨
        (civil a).2.1 = (civil b).2.1 ∧ (civil a).2.2 < (civil b).2.2) := by
  obtain ⟨y, doy, ha⟩ := exists_marchDate a
  obtain ⟨y', doy', hb⟩ := exists_marchDate b
  have h0 := ha.nonneg
  have h1 := ha.doy_le
  have h0' := hb.nonneg
  have h1' := hb.doy_le
  have horder := MarchDate.lt_iff ha hb h
  rw [ha.date, hb.date]
  obtain ⟨mp, hmp⟩ : ∃ mp, (5 * doy + 2) / 153 = mp := ⟨_, rfl⟩
  obtain ⟨mp', hmp'⟩ : ∃ mp', (5 * doy' + 2) / 153 = mp' := ⟨_, rfl⟩
  rw [hmp, hmp']
  -- months count on over the years, and a month has one first day
  have hmonths : y < y' ∨ y = y' ∧ (mp < mp' ∨ mp = mp' ∧ doy < doy') := by
    rcases horder with hlt | ⟨heq, hlt⟩
    · exact Or.inl hlt
    · refine Or.inr ⟨heq, ?_⟩
      omega
  by_cases hten : mp < 10
  · by_cases hten' : mp' < 10
    · simp only [hten, hten', if_true]
      rcases hmonths with hlt | ⟨heq, hlt | ⟨hm, hlt⟩⟩
      · exact Or.inl hlt
      · exact Or.inr ⟨heq, Or.inl (by omega)⟩
      · subst hm
        exact Or.inr ⟨heq, Or.inr ⟨rfl, by omega⟩⟩
    · simp only [hten, hten', if_true, if_false]
      left
      omega
  · by_cases hten' : mp' < 10
    · simp only [hten, hten', if_true, if_false]
      rcases hmonths with hlt | ⟨heq, hlt | ⟨hm, hlt⟩⟩
      · by_cases hnext : y + 1 = y'
        · exact Or.inr ⟨hnext, Or.inl (by omega)⟩
        · left
          omega
      · omega
      · omega
    · simp only [hten, hten', if_false]
      rcases hmonths with hlt | ⟨heq, hlt | ⟨hm, hlt⟩⟩
      · left
        omega
      · exact Or.inr ⟨by omega, Or.inl (by omega)⟩
      · subst hm
        exact Or.inr ⟨by omega, Or.inr ⟨rfl, by omega⟩⟩

end ControlPlane.Timestamp
