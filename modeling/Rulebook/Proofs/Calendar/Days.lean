import Mathlib
import Rulebook.Calendar.Date

/-!
Day numbers. Years and months are laid end to end, so that a day number lies in one year and in one
month of it, and is that of one date.
-/

namespace Rulebook.Calendar

variable {year n : ℤ} {month limit : ℕ}

def daysInYear (year : ℤ) : ℕ :=
  if isLeapYear year then 366 else 365

theorem daysBeforeYear_succ (year : ℤ) :
    Date.daysBeforeYear (year + 1) = Date.daysBeforeYear year + daysInYear year := by
  simp only [Date.daysBeforeYear, daysInYear, isLeapYear, Bool.and_eq_true, Bool.or_eq_true,
    beq_iff_eq, bne_iff_ne]
  split <;> omega

theorem daysBeforeYear_strictMono : StrictMono Date.daysBeforeYear := by
  apply strictMono_int_of_lt_succ
  intro year
  rw [daysBeforeYear_succ, daysInYear]
  split <;> omega

theorem daysBeforeMonth_succ (hmonth : 0 < month) : Date.daysBeforeMonth year (month + 1) =
    Date.daysBeforeMonth year month + daysInMonth year month := by
  cases month with
  | zero => cases hmonth
  | succ month => rfl

theorem daysBeforeMonth_mono : Monotone (Date.daysBeforeMonth year) := by
  apply monotone_nat_of_le_succ
  intro month
  cases month with
  | zero => exact le_rfl
  | succ month => exact Nat.le_add_right _ _

theorem daysBeforeMonth_thirteen : Date.daysBeforeMonth year 13 = daysInYear year := by
  simp only [Date.daysBeforeMonth, daysInMonth, daysInYear]
  split <;> rfl

theorem daysInMonth_pos_iff : 0 < daysInMonth year month ↔ 0 < month ∧ month ≤ 12 := by
  rw [daysInMonth.eq_def]
  split
  case h_12 => split <;> simp
  case h_13 => grind
  all_goals simp

theorem daysInMonth_le (year : ℤ) (month : ℕ) : daysInMonth year month ≤ 31 := by
  rw [daysInMonth.eq_def]
  split
  case h_12 => split <;> simp
  all_goals simp

namespace Date

variable {d : Date}

theorem bounds (d : Date) : (minYear ≤ d.year ∧ d.year ≤ maxYear) ∧ (0 < d.month ∧ d.month ≤ 12) ∧
    0 < d.day ∧ d.day ≤ daysInMonth d.year d.month := by
  have hvalid := d.valid
  simp only [isDay, Bool.and_eq_true, decide_eq_true_eq] at hvalid
  obtain ⟨⟨⟨hmin, hmax⟩, hfirst⟩, hlast⟩ := hvalid
  exact ⟨⟨hmin, hmax⟩, daysInMonth_pos_iff.1 (lt_of_lt_of_le hfirst hlast), hfirst, hlast⟩

-- The estimate counts a year as 365.2425 days.
theorem yearOfDay_eq (hfirst : daysBeforeYear year < n) (hlast : n ≤ daysBeforeYear (year + 1)) :
    yearOfDay n = year := by
  have hestimate : (n - 1) * 400 / 146097 + 1 = year - 1 ∨ (n - 1) * 400 / 146097 + 1 = year ∨
      (n - 1) * 400 / 146097 + 1 = year + 1 := by
    simp only [daysBeforeYear] at hfirst hlast
    omega
  simp only [yearOfDay]
  obtain h | h | h := hestimate
  · have hbefore : daysBeforeYear (year - 1) < daysBeforeYear year :=
      daysBeforeYear_strictMono (by omega)
    rw [h, sub_add_cancel, if_neg (by omega), if_pos hfirst]
  · rw [h, if_neg (by omega), if_neg (by omega)]
  · rw [h, if_pos hlast, add_sub_cancel_right]

theorem monthOfDay_eq (hmonth : 0 < month) (hle : month ≤ limit)
    (hfirst : daysBeforeMonth year month < n) (hlast : n ≤ daysBeforeMonth year (month + 1)) :
    monthOfDay year n limit = month := by
  induction limit with
  | zero => omega
  | succ limit ih =>
    rw [monthOfDay]
    split
    case isTrue hlimit =>
      by_contra hne
      have hmono : daysBeforeMonth year (month + 1) ≤ daysBeforeMonth year (limit + 1) :=
        daysBeforeMonth_mono (by omega)
      omega
    case isFalse hlimit =>
      apply ih
      rcases hle.eq_or_lt with rfl | hlt
      · exact absurd hfirst hlimit
      · omega

theorem dayOfYear_le (d : Date) : daysBeforeMonth d.year d.month + d.day ≤ daysInYear d.year := by
  obtain ⟨-, ⟨hmonth, hle⟩, -, hday⟩ := d.bounds
  have hmono : daysBeforeMonth d.year (d.month + 1) ≤ daysBeforeMonth d.year 13 :=
    daysBeforeMonth_mono (by omega)
  rw [daysBeforeMonth_succ hmonth, daysBeforeMonth_thirteen] at hmono
  omega

theorem ofDayNumber?_dayNumber (d : Date) : ofDayNumber? d.dayNumber = some d := by
  obtain ⟨-, ⟨hmonth, hle⟩, hfirst, hlast⟩ := d.bounds
  have hdayOfYear := d.dayOfYear_le
  have hyear : yearOfDay d.dayNumber = d.year := by
    apply yearOfDay_eq
    · rw [dayNumber]
      omega
    · rw [daysBeforeYear_succ, dayNumber]
      omega
  have hrest : d.dayNumber - daysBeforeYear d.year = daysBeforeMonth d.year d.month + d.day := by
    rw [dayNumber]
    omega
  have hmonth : monthOfDay d.year (daysBeforeMonth d.year d.month + d.day) 12 = d.month := by
    apply monthOfDay_eq hmonth hle
    · omega
    · rw [daysBeforeMonth_succ hmonth]
      omega
  simp only [ofDayNumber?, hyear, hrest, hmonth, add_sub_cancel_left, Int.toNat_natCast]
  exact d.ofParts?_self

theorem natAbs_dayNumber_lt (d : Date) : d.dayNumber.natAbs < 100000000 := by
  have hbounds := d.bounds
  have hdayOfYear := d.dayOfYear_le
  have hyear : daysInYear d.year ≤ 366 := by
    rw [daysInYear]
    split <;> decide
  simp only [minYear, maxYear] at hbounds
  rw [dayNumber, daysBeforeYear]
  omega

end Date

end Rulebook.Calendar
