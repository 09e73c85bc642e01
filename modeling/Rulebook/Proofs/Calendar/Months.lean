import Rulebook.Proofs.Calendar.Days

/-!
Months. Those of all years are numbered one after the other, and each begins where the one before it
ends. Months between two dates, added to the first, lead between the two and to less than a month
from the second.
-/

namespace Rulebook.Calendar

variable {k months : ℤ} {d a b start finish landing : Date}

def monthLength (k : ℤ) : ℕ :=
  daysInMonth (k / 12) ((k % 12).toNat + 1)

def daysBefore (k : ℤ) : ℤ :=
  Date.daysBeforeYear (k / 12) + Date.daysBeforeMonth (k / 12) ((k % 12).toNat + 1)

theorem daysBefore_succ (k : ℤ) : daysBefore (k + 1) = daysBefore k + monthLength k := by
  have hnext : Date.daysBeforeMonth (k / 12) ((k % 12).toNat + 2) =
      Date.daysBeforeMonth (k / 12) ((k % 12).toNat + 1) + monthLength k :=
    daysBeforeMonth_succ (Nat.succ_pos _)
  rw [daysBefore, daysBefore]
  by_cases hlast : k % 12 = 11
  case pos =>
    have hyear : (k + 1) / 12 = k / 12 + 1 := by omega
    have hmonth : (k + 1) % 12 = 0 := by omega
    have hend : (k % 12).toNat + 2 = 13 := by omega
    rw [hend, daysBeforeMonth_thirteen] at hnext
    rw [hyear, hmonth, daysBeforeYear_succ, hnext]
    simp [Date.daysBeforeMonth, add_assoc]
  case neg =>
    have hyear : (k + 1) / 12 = k / 12 := by omega
    have hmonth : ((k + 1) % 12).toNat + 1 = (k % 12).toNat + 2 := by omega
    rw [hyear, hmonth, hnext, Nat.cast_add, add_assoc]

theorem daysBefore_mono : Monotone daysBefore := by
  apply monotone_int_of_le_succ
  intro k
  rw [daysBefore_succ]
  omega

theorem monthLength_pos (k : ℤ) : 0 < monthLength k :=
  daysInMonth_pos_iff.2 (by omega)

theorem monthLength_le (k : ℤ) : monthLength k ≤ 31 :=
  daysInMonth_le _ _

namespace Date

def monthNumber (d : Date) : ℤ :=
  d.year * 12 + (d.month - 1 : ℤ)

theorem monthNumber_div (d : Date) : d.monthNumber / 12 = d.year := by
  have := d.bounds
  rw [monthNumber]
  omega

theorem monthNumber_mod (d : Date) : (d.monthNumber % 12).toNat + 1 = d.month := by
  have := d.bounds
  rw [monthNumber]
  omega

theorem dayNumber_eq (d : Date) : d.dayNumber = daysBefore d.monthNumber + d.day := by
  rw [daysBefore, monthNumber_div, monthNumber_mod, dayNumber]

theorem monthLength_monthNumber (d : Date) :
    monthLength d.monthNumber = daysInMonth d.year d.month := by
  rw [monthLength, monthNumber_div, monthNumber_mod]

theorem day_bounds (d : Date) :
    0 < d.day ∧ d.day ≤ monthLength d.monthNumber ∧ monthLength d.monthNumber ≤ 31 := by
  have hlength := monthLength_le d.monthNumber
  rw [monthLength_monthNumber] at *
  exact ⟨d.bounds.2.2.1, d.bounds.2.2.2, hlength⟩

theorem dayNumber_lt (h : a.monthNumber < b.monthNumber ∨
    a.monthNumber = b.monthNumber ∧ a.day < b.day) : a.dayNumber < b.dayNumber := by
  rw [dayNumber_eq, dayNumber_eq]
  obtain h | ⟨hmonth, h⟩ := h
  · have hmono : daysBefore (a.monthNumber + 1) ≤ daysBefore b.monthNumber := daysBefore_mono h
    have ha := a.day_bounds
    have hb := b.day_bounds
    rw [daysBefore_succ] at hmono
    omega
  · rw [hmonth]
    omega

theorem dayNumber_lt_of_fields (h : a.year < b.year ∨ a.year = b.year ∧
    (a.month < b.month ∨ a.month = b.month ∧ a.day < b.day)) : a.dayNumber < b.dayNumber := by
  have ha := a.bounds.2.1
  have hb := b.bounds.2.1
  apply dayNumber_lt
  simp only [monthNumber]
  omega

-- Dates are in the order of their day numbers.
theorem compare_eq (a b : Date) : a.compare b = Ord.compare a.dayNumber b.dayNumber := by
  cases h : a.compare b with
  | lt =>
    simp only [Date.compare, Ordering.then_eq_lt, compare_lt_iff_lt, compare_eq_iff_eq] at h
    exact (compare_lt_iff_lt.2 (dayNumber_lt_of_fields h)).symm
  | eq =>
    simp only [Date.compare, Ordering.then_eq_eq, compare_eq_iff_eq] at h
    obtain ⟨hyear, hmonth, hday⟩ := h
    rw [dayNumber, dayNumber, hyear, hmonth, hday, compare_eq_iff_eq.2 rfl]
  | gt =>
    simp only [Date.compare, Ordering.then_eq_gt, compare_gt_iff_gt, compare_eq_iff_eq] at h
    exact (compare_gt_iff_gt.2 (dayNumber_lt_of_fields (by omega))).symm

theorem addMonths?_eq_some_iff : d.addMonths? months = some landing ↔
    landing.monthNumber = d.monthNumber + months ∧
      landing.day = min d.day (monthLength landing.monthNumber) := by
  have hbounds := landing.bounds
  rw [addMonths?, ofParts?_eq_some_iff, ← monthNumber]
  constructor
  · rintro ⟨hyear, hmonth, hday⟩
    rw [monthLength_monthNumber, hyear, hmonth, ← hday]
    refine ⟨?_, rfl⟩
    rw [monthNumber]
    omega
  · rintro ⟨hnumber, hday⟩
    rw [← hnumber, monthNumber_div, monthNumber_mod, ← monthLength_monthNumber]
    exact ⟨rfl, rfl, hday⟩

theorem addMonths?_zero (d : Date) : d.addMonths? 0 = some d := by
  rw [addMonths?_eq_some_iff, Int.add_zero, Nat.min_eq_left d.day_bounds.2.1]
  exact ⟨rfl, rfl⟩

-- Months lead from a date to a month of the calendar, whatever its length.
theorem exists_addMonths? (hmin : 12 * minYear ≤ d.monthNumber + months)
    (hmax : d.monthNumber + months < 12 * (maxYear + 1)) :
    ∃ landing, d.addMonths? months = some landing := by
  have hday := d.day_bounds
  have hlength := monthLength_pos (d.monthNumber + months)
  have hvalid : isDay ((d.monthNumber + months) / 12) (((d.monthNumber + months) % 12).toNat + 1)
      (min d.day (monthLength (d.monthNumber + months))) = true := by
    simp only [isDay, Bool.and_eq_true, decide_eq_true_eq]
    exact ⟨⟨⟨by omega, by omega⟩, by omega⟩, min_le_right _ _⟩
  exact ⟨_, dif_pos hvalid⟩

theorem dayNumber_le_of_addMonths? (h : d.addMonths? months = some landing) (hm : 0 ≤ months) :
    d.dayNumber ≤ landing.dayNumber := by
  obtain ⟨hnumber, hday⟩ := addMonths?_eq_some_iff.1 h
  obtain rfl | hpos := hm.eq_or_lt
  · rw [addMonths?_zero, Option.some.injEq] at h
    rw [h]
  · exact (dayNumber_lt (.inl (by omega))).le

theorem le_dayNumber_of_addMonths? (h : d.addMonths? months = some landing) (hm : months ≤ 0) :
    landing.dayNumber ≤ d.dayNumber := by
  obtain ⟨hnumber, hday⟩ := addMonths?_eq_some_iff.1 h
  obtain rfl | hneg := hm.eq_or_lt
  · rw [addMonths?_zero, Option.some.injEq] at h
    rw [h]
  · exact (dayNumber_lt (.inl (by omega))).le

theorem monthsBetween_eq (finish start : Date) : monthsBetween finish start =
    if start.monthNumber < finish.monthNumber ∧ finish.day < start.day then
      finish.monthNumber - start.monthNumber - 1
    else if finish.monthNumber < start.monthNumber ∧ start.day < finish.day then
      finish.monthNumber - start.monthNumber + 1
    else finish.monthNumber - start.monthNumber := by
  have hmonths : (finish.year - start.year) * 12 + finish.month - start.month =
      finish.monthNumber - start.monthNumber := by
    simp only [monthNumber]
    omega
  simp only [monthsBetween, hmonths, sub_pos, sub_neg]

theorem monthsBetween_swap (finish start : Date) :
    monthsBetween finish start = -monthsBetween start finish := by
  rw [monthsBetween_eq, monthsBetween_eq]
  split_ifs <;> omega

theorem natAbs_monthsBetween_lt (finish start : Date) :
    (monthsBetween finish start).natAbs < 10000000 := by
  have hfinish := finish.bounds
  have hstart := start.bounds
  simp only [minYear, maxYear] at hfinish hstart
  rw [monthsBetween_eq, monthNumber, monthNumber]
  split_ifs <;> omega

theorem exists_landing (start finish : Date) :
    ∃ landing, start.addMonths? (monthsBetween finish start) = some landing := by
  have hstart := start.bounds.1
  have hfinish := finish.bounds.1
  have h₁ := start.monthNumber_div
  have h₂ := finish.monthNumber_div
  have hmonths := monthsBetween_eq finish start
  apply exists_addMonths?
  · split_ifs at hmonths <;> omega
  · split_ifs at hmonths <;> omega

-- The months lead to the month of the second date, or to the next one on the side of the first.
theorem landing_bounds (h : start.addMonths? (monthsBetween finish start) = some landing) :
    (start.dayNumber ≤ landing.dayNumber ∧ landing.dayNumber ≤ finish.dayNumber ∨
      finish.dayNumber ≤ landing.dayNumber ∧ landing.dayNumber ≤ start.dayNumber) ∧
      |finish.dayNumber - landing.dayNumber| ≤ 30 := by
  obtain ⟨hnumber, hday⟩ := addMonths?_eq_some_iff.1 h
  have hforward := dayNumber_le_of_addMonths? h
  have hbackward := le_dayNumber_of_addMonths? h
  have hmonths := monthsBetween_eq finish start
  have hstart := start.day_bounds
  have hfinish := finish.day_bounds
  have hlength := monthLength_le landing.monthNumber
  rw [abs_le]
  split_ifs at hmonths with hafter hbefore
  case pos =>
    have hnext : daysBefore finish.monthNumber =
        daysBefore landing.monthNumber + monthLength landing.monthNumber := by
      rw [← daysBefore_succ]
      congr 1
      omega
    have := finish.dayNumber_eq
    have := landing.dayNumber_eq
    omega
  case pos =>
    have hnext : daysBefore landing.monthNumber =
        daysBefore finish.monthNumber + monthLength finish.monthNumber := by
      rw [← daysBefore_succ]
      congr 1
      omega
    have := finish.dayNumber_eq
    have := landing.dayNumber_eq
    omega
  case neg =>
    have hsame : landing.monthNumber = finish.monthNumber := by omega
    have hfirst : daysBefore landing.monthNumber = daysBefore finish.monthNumber := by rw [hsame]
    rw [hsame] at hday
    have := finish.dayNumber_eq
    have := landing.dayNumber_eq
    omega

end Date

end Rulebook.Calendar
