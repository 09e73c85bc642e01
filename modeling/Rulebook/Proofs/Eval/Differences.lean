import Rulebook.Proofs.Calendar.Moments
import Rulebook.Proofs.Calendar.Months
import Rulebook.Proofs.Eval.Intervals

/-!
A difference of two dates, or of two moments to the millisecond, leads back from the second to the
first when it is added, on either side.
-/

namespace Rulebook

open Calendar

variable {r : Registry} {scope : Scope} {left right : Expr} {v w : Value}

namespace Value

theorem addToDate?_between (a b : Date) :
    addToDate? b ⟨0, (a.dayNumber - b.dayNumber) * millisPerDay⟩ = some a := by
  have hdays : Duration.days ⟨0, (a.dayNumber - b.dayNumber) * millisPerDay⟩ =
      a.dayNumber - b.dayNumber := Int.mul_tdiv_cancel _ (by decide)
  rw [addToDate?, b.addMonths?_zero, hdays, Option.bind_eq_bind, Option.bind_some, Date.addDays?,
    add_sub_cancel, a.ofDayNumber?_dayNumber]

theorem addToDateTime?_between {a b : DateTime} (ha : a.time.IsExact) (hb : b.time.IsExact) :
    addToDateTime? b (millisOfNanos (a.nanosBetween b)) = some a := by
  have hshort : (a.nanosBetween b).tdiv 1000000 ≠ minPart := by
    have hlt := DateTime.natAbs_millisBetween_lt ha hb
    rw [minPart]
    omega
  rw [addToDateTime?, millisOfNanos, b.date.addMonths?_zero, Option.bind_eq_bind,
    Option.bind_some, if_neg hshort, DateTime.addMillis?_between ha hb]

-- Whatever whole days are cut off, the time of day is the same.
theorem addToTime_between {s t : Time} (hs : s.IsExact) (ht : t.IsExact) :
    addToTime t (millisOfNanos (s.nanosBetween t)) = s := by
  have hrest : (s.millis - t.millis).tmod millisPerDay =
      s.millis - t.millis + -(s.millis - t.millis).tdiv millisPerDay * 86400000 := by
    rw [Int.tmod_def, millisPerDay]
    ring
  rw [addToTime, millisOfNanos, hs.millisBetween_eq ht, hrest, hs.addMillis_eq ht]

-- Two dates, or two moments of one kind to the millisecond and outside of leap seconds: the last
-- second of a day, if it is one, is at no distance from the midnight behind it.
inductive Apart : Value → Value → Prop
  | dates (a b : Date) : Apart (date a) (date b)
  | dateTimes {a b : DateTime} (ha : a.time.IsExact) (hb : b.time.IsExact) :
    Apart (dateTime a) (dateTime b)
  | times {s t : Time} (hs : s.IsExact) (ht : t.IsExact) : Apart (time s) (time t)

theorem Apart.exists_difference (h : Apart v w) : ∃ d, binary .subtract v w = .ok (duration d) ∧
    binary .add (duration d) w = .ok v ∧ binary .add w (duration d) = .ok v := by
  cases h with
  | dates a b =>
    refine ⟨_, rfl, ?_⟩
    simp only [binary, add, addToDate?_between, orOverflow, and_self]
  | dateTimes ha hb =>
    refine ⟨_, rfl, ?_⟩
    simp only [binary, add, addToDateTime?_between ha hb, orOverflow, and_self]
  | times hs ht =>
    refine ⟨_, rfl, ?_⟩
    simp only [binary, add, addToTime_between hs ht, and_self]

end Value

theorem eval_add_difference (h : Value.Apart v w) (hleft : eval r scope left = .ok v)
    (hright : eval r scope right = .ok w) :
    eval r scope (.binary .add (.binary .subtract left right) right) = .ok v ∧
      eval r scope (.binary .add right (.binary .subtract left right)) = .ok v := by
  obtain ⟨d, hdifference, hfront, hback⟩ := h.exists_difference
  have hsubtract : eval r scope (.binary .subtract left right) = .ok (.duration d) := by
    rw [eval_binary rfl hleft hright, hdifference]
  exact ⟨by rw [eval_binary rfl hsubtract hright, hfront],
    by rw [eval_binary rfl hright hsubtract, hback]⟩

-- From one end of the calendar to the other.
theorem eval_add_difference_longest :
    let first : DateTime := ⟨⟨minYear, 1, 1, by decide⟩, .midnight⟩
    let last : DateTime :=
      ⟨⟨maxYear, 12, 31, by decide⟩, ⟨86399, 999000000, by decide, by decide, by decide⟩⟩
    let scope : Scope := [[("a", .dateTime first), ("b", .dateTime last)]]
    let a : Expr := .reference "a"
    let b : Expr := .reference "b"
    Value.Apart (.dateTime first) (.dateTime last) ∧
      eval .empty scope (.binary .add (.binary .subtract a b) b) = .ok (.dateTime first) ∧
      eval .empty scope (.binary .add b (.binary .subtract a b)) = .ok (.dateTime first) := by
  intro first last scope a b
  have happart : Value.Apart (.dateTime first) (.dateTime last) :=
    .dateTimes ⟨by decide, by decide⟩ ⟨by decide, by decide⟩
  have hfirst : eval .empty scope a = .ok (.dateTime first) := rfl
  have hlast : eval .empty scope b = .ok (.dateTime last) := rfl
  exact ⟨happart, eval_add_difference happart hfirst hlast⟩

end Rulebook
