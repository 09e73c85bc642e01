import Rulebook.Calendar.DateTime
import Rulebook.Proofs.Calendar.Days

/-!
Moments of the day and of the calendar. Outside of leap seconds a time is told by its nanoseconds
from midnight, so that moving from one moment by what lies between it and another leads to the other.
-/

namespace Rulebook.Calendar

variable {s t : Time} {a b : DateTime} {days : ℤ}

namespace Time

theorem ofParts?_eq_some_iff {hour minute second nano : ℕ} :
    ofParts? hour minute second nano = some t ↔
      t.hour = hour ∧ t.minute = minute ∧ t.secondOfMinute = second ∧ t.nano = nano := by
  constructor
  · intro h
    simp only [ofParts?] at h
    split at h
    case isTrue hparts =>
      cases h
      simp only [Time.hour, Time.minute, secondOfMinute, and_true]
      omega
    case isFalse => cases h
  · rintro ⟨rfl, rfl, rfl, rfl⟩
    exact t.ofParts?_self

-- Whole milliseconds, outside of leap seconds.
structure IsExact (t : Time) : Prop where
  whole : t.nano % 1000000 = 0
  noLeap : t.isLeap = false

theorem nano_lt_of_isLeap (h : t.isLeap = false) : t.nano < 1000000000 :=
  Nat.not_le.1 (of_decide_eq_false h)

theorem nanos_bounds (h : t.isLeap = false) : 0 ≤ t.nanos ∧ t.nanos < 86400000000000 := by
  have hsecond := t.second_lt
  have hnano := nano_lt_of_isLeap h
  simp only [secondsPerDay] at hsecond
  rw [nanos]
  omega

theorem ofNanos_add_days (h : t.isLeap = false) (days : ℤ) :
    ofNanos (t.nanos + days * 86400000000000) = (t, days) := by
  have hbounds := nanos_bounds h
  have hdays : (t.nanos + days * 86400000000000) / 86400000000000 = days := by omega
  have hrest : (t.nanos + days * 86400000000000) % 86400000000000 = t.nanos := by omega
  have hnano := nano_lt_of_isLeap h
  obtain ⟨second, nano, _, _, _⟩ := t
  simp only [ofNanos, hdays, hrest, Prod.mk.injEq, mk.injEq, and_true]
  simp only [nanos] at *
  omega

theorem addMillis_of_isLeap (h : t.isLeap = false) (millis : ℤ) :
    t.addMillis millis = ofNanos (t.nanos + millis * 1000000) := by
  simp [addMillis, h]

theorem nanosBetween_eq (hs : s.isLeap = false) (ht : t.isLeap = false) :
    s.nanosBetween t = s.nanos - t.nanos := by
  simp [nanosBetween, hs, ht]

def millis (t : Time) : ℤ :=
  t.nanos / 1000000

theorem millis_bounds (h : t.isLeap = false) : 0 ≤ t.millis ∧ t.millis < 86400000 := by
  have hbounds := nanos_bounds h
  rw [millis]
  omega

theorem IsExact.nanos_eq (h : t.IsExact) : t.nanos = t.millis * 1000000 := by
  have hwhole := h.whole
  rw [millis, nanos]
  omega

theorem IsExact.millisBetween_eq (hs : s.IsExact) (ht : t.IsExact) :
    (s.nanosBetween t).tdiv 1000000 = s.millis - t.millis := by
  rw [nanosBetween_eq hs.noLeap ht.noLeap, hs.nanos_eq, ht.nanos_eq, ← sub_mul,
    Int.mul_tdiv_cancel _ (by decide)]

-- Days in between do not matter to the time of day.
theorem IsExact.addMillis_eq (hs : s.IsExact) (ht : t.IsExact) (days : ℤ) :
    t.addMillis (s.millis - t.millis + days * 86400000) = (s, days) := by
  have hnanos : t.nanos + (s.millis - t.millis + days * 86400000) * 1000000 =
      s.nanos + days * 86400000000000 := by
    rw [hs.nanos_eq, ht.nanos_eq]
    ring
  rw [addMillis_of_isLeap ht.noLeap, hnanos, ofNanos_add_days hs.noLeap]

end Time

namespace DateTime

theorem millisBetween_eq (ha : a.time.IsExact) (hb : b.time.IsExact) :
    (a.nanosBetween b).tdiv 1000000 =
      a.time.millis - b.time.millis + (a.date.dayNumber - b.date.dayNumber) * 86400000 := by
  have hnanos : a.nanosBetween b =
      (a.time.millis - b.time.millis +
        (a.date.dayNumber - b.date.dayNumber) * 86400000) * 1000000 := by
    rw [nanosBetween, Time.nanosBetween_eq ha.noLeap hb.noLeap, ha.nanos_eq, hb.nanos_eq,
      secondsPerDay, nanosPerSecond]
    push_cast
    ring
  rw [hnanos, Int.mul_tdiv_cancel _ (by decide)]

theorem addMillis?_between (ha : a.time.IsExact) (hb : b.time.IsExact) :
    b.addMillis? ((a.nanosBetween b).tdiv 1000000) = some a := by
  rw [millisBetween_eq ha hb, addMillis?, ha.addMillis_eq hb]
  simp [Date.addDays?, Date.ofDayNumber?_dayNumber]

-- The whole calendar is shorter than the longest durations.
theorem natAbs_millisBetween_lt (ha : a.time.IsExact) (hb : b.time.IsExact) :
    ((a.nanosBetween b).tdiv 1000000).natAbs < 20000000000000000 := by
  have hdays := a.date.natAbs_dayNumber_lt
  have hdays' := b.date.natAbs_dayNumber_lt
  have hmillis := Time.millis_bounds ha.noLeap
  have hmillis' := Time.millis_bounds hb.noLeap
  rw [millisBetween_eq ha hb]
  omega

end DateTime

end Rulebook.Calendar
