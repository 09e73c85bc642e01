import Rulebook.Builtin.Basic
import Rulebook.Proofs.Calendar.Months
import Rulebook.Proofs.Eval.Intervals

/-!
Completed months between two dates. Asked for the other way round they are the same with the other
sign, and added to the first date they lead between the two, at most 30 days from the second.
-/

namespace Rulebook

open Calendar

variable {d a b : Date}

namespace Value

theorem passes_date_iff {inside : Ordering} :
    Passes inside true (date a) (date b) ↔
      Ord.compare a.dayNumber b.dayNumber = inside ∨ a.dayNumber = b.dayNumber := by
  simp [Passes, compare?, Date.compare_eq]

theorem between_dates : (date d).between (date a) (date b) = boolean true ↔
    a.dayNumber ≤ d.dayNumber ∧ d.dayNumber ≤ b.dayNumber := by
  rw [between_eq rfl rfl rfl, boolean.injEq, decide_eq_true_iff, Inside, passes_date_iff,
    passes_date_iff, compare_gt_iff_gt, compare_lt_iff_lt]
  omega

end Value

namespace Builtin

variable {start finish : Date}

theorem call_monthsFromTo : Registry.builtins.call "years_and_months_duration"
    [.date start, .date finish] = .ok (.duration ⟨Date.monthsBetween finish start, 0⟩) := by
  have hfind : Registry.builtins.find? "years_and_months_duration" =
      some ⟨"years_and_months_duration", .exact 2, true, monthsFromTo⟩ := rfl
  rw [Registry.call, hfind]
  rfl

theorem negate_months (finish start : Date) :
    Value.unary .negate (.duration ⟨Date.monthsBetween start finish, 0⟩) =
      .ok (.duration ⟨Date.monthsBetween finish start, 0⟩) := by
  have hlt := Date.natAbs_monthsBetween_lt finish start
  have hfits : fits (Date.monthsBetween finish start) = true := by
    simp only [fits, Bool.and_eq_true, decide_eq_true_eq]
    simp only [minPart, maxPart]
    omega
  have hnegated : Duration.negate? ⟨Date.monthsBetween start finish, 0⟩ =
      some ⟨Date.monthsBetween finish start, 0⟩ := by
    rw [Duration.negate?, Date.monthsBetween_swap start finish, neg_neg, neg_zero,
      Duration.ofParts?, hfits]
    rfl
  simp only [Value.unary, hnegated]

theorem add_months {months : ℤ} {landing : Date} (h : start.addMonths? months = some landing) :
    Value.binary .add (.date start) (.duration ⟨months, 0⟩) = .ok (.date landing) := by
  have hadd : Value.addToDate? start ⟨months, 0⟩ = some landing := by
    rw [Value.addToDate?, h, Option.bind_eq_bind, Option.bind_some]
    exact (congrArg Date.ofDayNumber? (add_zero _)).trans landing.ofDayNumber?_dayNumber
  simp only [Value.binary, Value.add, Value.orOverflow, hadd]

theorem call_months_between (start finish : Date) : ∃ (there back : Duration) (landing : Date)
      (days : ℤ),
    Registry.builtins.call "years_and_months_duration" [.date start, .date finish] =
        .ok (.duration there) ∧
      Registry.builtins.call "years_and_months_duration" [.date finish, .date start] =
        .ok (.duration back) ∧
      Value.unary .negate (.duration back) = .ok (.duration there) ∧
      Value.binary .add (.date start) (.duration there) = .ok (.date landing) ∧
      landing.monthNumber = start.monthNumber + there.months ∧
      landing.day = min start.day (daysInMonth landing.year landing.month) ∧
      ((Value.date landing).between (.date start) (.date finish) = .boolean true ∨
        (Value.date landing).between (.date finish) (.date start) = .boolean true) ∧
      Value.binary .subtract (.date finish) (.date landing) =
        .ok (.duration ⟨0, days * millisPerDay⟩) ∧ |days| ≤ 30 := by
  obtain ⟨landing, hlanding⟩ := Date.exists_landing start finish
  obtain ⟨hnumber, hday⟩ := Date.addMonths?_eq_some_iff.1 hlanding
  obtain ⟨hbetween, hnear⟩ := Date.landing_bounds hlanding
  rw [Date.monthLength_monthNumber] at hday
  refine ⟨_, _, landing, finish.dayNumber - landing.dayNumber, call_monthsFromTo,
    call_monthsFromTo, negate_months finish start, add_months hlanding, hnumber, hday, ?_, rfl,
    hnear⟩
  rwa [Value.between_dates, Value.between_dates]

end Builtin

end Rulebook
