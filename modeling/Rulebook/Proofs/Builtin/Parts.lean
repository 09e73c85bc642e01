import Rulebook.Proofs.Builtin.Positions
import Rulebook.Proofs.Calendar.Moments
import Rulebook.Proofs.Number.Conversion

/-!
Dates and times from their parts. Whole numbers make up a date exactly if it is in the calendar. Of
the parts of a time the hour and the minute are taken as they are, but a second below zero counts
as zero.
-/

namespace Rulebook

open Calendar

namespace Builtin

variable {x y z : Float} {i j k : ℤ}

-- The day is in the calendar, and its year is one of those that dates have.
structure IsDate (year month day : ℤ) : Prop where
  years : minYear ≤ year ∧ year ≤ maxYear
  months : 1 ≤ month ∧ month ≤ 12
  days : 1 ≤ day ∧ day ≤ daysInMonth year month.toNat

structure IsTime (hour minute second : ℤ) : Prop where
  hours : 0 ≤ hour ∧ hour < 24
  minutes : 0 ≤ minute ∧ minute < 60
  seconds : 0 ≤ second ∧ second < 60

theorem exists_date_iff : (∃ d : Date, d.year = i ∧ d.month = j ∧ d.day = k) ↔ IsDate i j k := by
  constructor
  · rintro ⟨d, rfl, rfl, rfl⟩
    obtain ⟨hyear, hmonth, hday⟩ := d.bounds
    exact ⟨hyear, by omega, by rw [Int.toNat_natCast]; omega⟩
  · rintro ⟨⟨hmin, hmax⟩, ⟨hfirst, -⟩, hday, hlast⟩
    have hvalid : isDay i j.toNat k.toNat = true := by
      simp only [isDay, Bool.and_eq_true, decide_eq_true_eq]
      omega
    exact ⟨⟨i, j.toNat, k.toNat, hvalid⟩, rfl, Int.toNat_of_nonneg (by omega),
      Int.toNat_of_nonneg (by omega)⟩

theorem exists_time_iff :
    (∃ t : Time, t.hour = i ∧ t.minute = j ∧ t.secondOfMinute = k ∧ t.nano = 0) ↔
      IsTime i j k := by
  constructor
  · rintro ⟨t, rfl, rfl, rfl, -⟩
    have hlt := t.second_lt
    simp only [secondsPerDay] at hlt
    simp only [Time.hour, Time.minute, Time.secondOfMinute]
    constructor <;> omega
  · rintro ⟨⟨hhour, _⟩, ⟨hminute, _⟩, hsecond, _⟩
    have hlt : i.toNat * 3600 + j.toNat * 60 + k.toNat < secondsPerDay := by
      simp only [secondsPerDay]
      omega
    refine ⟨⟨i.toNat * 3600 + j.toNat * 60 + k.toNat, 0, hlt, by decide, ?_⟩, ?_⟩
    · simp [nanosPerSecond]
    · simp only [Time.hour, Time.minute, Time.secondOfMinute, and_true]
      omega

-- No part is as large as the bounds of 64 bits.
theorem eq_held_iff {n : ℤ} (h : n.natAbs < 2 ^ 31) : n = held i ↔ n = i := by
  simp only [held, minInteger, maxInteger]
  omega

theorem dateOfParts?_eq_some_iff {d : Date} : dateOfParts? (held i) (held j) (held k) = some d ↔
    d.year = i ∧ d.month = j ∧ d.day = k := by
  obtain ⟨⟨hmin, hmax⟩, ⟨-, hmonth⟩, -, hday⟩ := d.bounds
  have hlast := daysInMonth_le d.year d.month
  simp only [minYear, maxYear] at hmin hmax
  rw [← eq_held_iff (i := i) (by omega), ← eq_held_iff (i := j) (by omega),
    ← eq_held_iff (i := k) (by omega), dateOfParts?]
  split
  case isTrue hneg =>
    refine iff_of_false (by simp) ?_
    omega
  case isFalse hnonneg =>
    rw [Date.ofParts?_eq_some_iff]
    omega

theorem wholeSecond_of_toInt? (hz : Number.toInt? z = some k) :
    (wholeSecond z : ℤ) = max 0 (min (UInt32.size - 1 : ℤ) k) := by
  rw [wholeSecond, Number.clampToInt_of_toInt? hz, Int.toNat_of_nonneg (le_max_left _ _)]

theorem nanosOfSecond_of_toInt? (hz : Number.toInt? z = some k) : nanosOfSecond z = 0 := by
  rw [nanosOfSecond, Number.fraction_of_toInt? hz]
  decide +kernel

theorem timeOfParts?_eq_some_iff {t : Time} (hz : Number.toInt? z = some k) :
    timeOfParts? (held i) (held j) z = some t ↔
      t.hour = i ∧ t.minute = j ∧ t.secondOfMinute = max 0 k ∧ t.nano = 0 := by
  have hsecond := wholeSecond_of_toInt? hz
  have hlt : t.hour < 24 := Nat.div_lt_of_lt_mul t.second_lt
  have hminute : t.minute < 60 := Nat.mod_lt _ (by decide)
  have hlast : t.secondOfMinute < 60 := Nat.mod_lt _ (by decide)
  simp only [UInt32.size] at hsecond
  rw [← eq_held_iff (i := i) (by omega), ← eq_held_iff (i := j) (by omega), timeOfParts?]
  split
  case isTrue hneg =>
    refine iff_of_false (by simp) ?_
    omega
  case isFalse hnonneg =>
    rw [Time.ofParts?_eq_some_iff, nanosOfSecond_of_toInt? hz]
    omega

-- What a call makes of three parts: a value of the kind that has them as its properties, if that is
-- possible, and otherwise nothing of the kind.
structure Makes (kind : Kind) (possible : Prop) (parts : List (String × ℤ)) (r : Outcome Value) :
    Prop where
  made : possible → ∃ v, r = .ok v ∧ v.typeName = kind.name ∧
    ∀ part ∈ parts, v.property part.1 = .ofInt part.2
  refused : ¬possible → ∃ text, r = .error (.malformed ⟨kind, text⟩)

namespace Makes

variable {kind : Kind} {possible : Prop} {parts : List (String × ℤ)} {v : Value}

theorem of_possible (h : possible) (hkind : v.typeName = kind.name)
    (hparts : ∀ part ∈ parts, v.property part.1 = .ofInt part.2) :
    Makes kind possible parts (.ok v) :=
  ⟨fun _ => ⟨v, rfl, hkind, hparts⟩, fun hnot => absurd h hnot⟩

theorem of_not_possible (h : ¬possible) (separator : String) (texts : List String) :
    Makes kind possible parts (malformedParts kind separator texts) :=
  ⟨fun hpossible => absurd hpossible h, fun _ => ⟨_, rfl⟩⟩

end Makes

theorem property_of_date {d : Date} {part : String × ℤ}
    (h : part ∈ [("year", d.year), ("month", (d.month : ℤ)), ("day", (d.day : ℤ))]) :
    (Value.date d).property part.1 = .ofInt part.2 := by
  simp only [List.mem_cons, List.not_mem_nil, or_false] at h
  obtain rfl | rfl | rfl := h <;> rfl

theorem property_of_time {t : Time} {part : String × ℤ} (hnano : t.nano = 0)
    (h : part ∈ [("hour", (t.hour : ℤ)), ("minute", (t.minute : ℤ)),
      ("second", (t.secondOfMinute : ℤ))]) :
    (Value.time t).property part.1 = .ofInt part.2 := by
  have hexact : ∀ s < 60, Number.ofInt (s : ℕ) + Number.ofInt (0 : ℕ) / 1000000000 =
      Number.ofInt (s : ℕ) := by
    decide +kernel
  have hlast : t.secondOfMinute < 60 := Nat.mod_lt _ (by decide)
  have hsecond : (Value.time t).property "second" = .ofInt t.secondOfMinute := by
    show Value.number (Number.ofInt t.secondOfMinute + Number.ofInt t.nano / 1000000000) = _
    rw [hnano, hexact _ hlast, Value.ofInt]
  simp only [List.mem_cons, List.not_mem_nil, or_false] at h
  obtain rfl | rfl | rfl := h
  · rfl
  · rfl
  · exact hsecond

section Calls

variable (hx : Number.toInt? x = some i) (hy : Number.toInt? y = some j)
  (hz : Number.toInt? z = some k)
include hx hy hz

theorem call_date : Makes .date (IsDate i j k) [("year", i), ("month", j), ("day", k)]
    (Registry.builtins.call "date" [.number x, .number y, .number z]) := by
  have hfind : Registry.builtins.find? "date" = some ⟨"date", .range 1 3, true, makeDate⟩ := rfl
  rw [Registry.call, hfind]
  show Makes _ _ _ (dateOfParts [.number x, .number y, .number z])
  simp only [dateOfParts]
  rw [expectInteger_of_toInt? rfl hx, expectInteger_of_toInt? rfl hy,
    expectInteger_of_toInt? rfl hz, ← exists_date_iff]
  simp only [bind, Except.bind]
  split
  case h_1 d hfound =>
    have hd := dateOfParts?_eq_some_iff.1 hfound
    apply Makes.of_possible ⟨d, hd⟩ rfl
    obtain ⟨rfl, rfl, rfl⟩ := hd
    exact fun _ => property_of_date
  case h_2 hnone =>
    apply Makes.of_not_possible
    rintro ⟨d, hd⟩
    rw [dateOfParts?_eq_some_iff.2 hd] at hnone
    cases hnone

theorem call_time :
    Makes .time (IsTime i j (max 0 k)) [("hour", i), ("minute", j), ("second", max 0 k)]
      (Registry.builtins.call "time" [.number x, .number y, .number z]) := by
  have hfind : Registry.builtins.find? "time" = some ⟨"time", .range 1 3, true, makeTime⟩ := rfl
  rw [Registry.call, hfind]
  show Makes _ _ _ (timeOfParts [.number x, .number y, .number z])
  simp only [timeOfParts]
  rw [expectInteger_of_toInt? rfl hx, expectInteger_of_toInt? rfl hy, ← exists_time_iff]
  simp only [expectNumber, bind, Except.bind, List.getElem?_cons_succ, List.getElem?_cons_zero]
  split
  case h_1 t hfound =>
    have ht := (timeOfParts?_eq_some_iff hz).1 hfound
    apply Makes.of_possible ⟨t, ht⟩ rfl
    obtain ⟨rfl, rfl, hsecond, hnano⟩ := ht
    rw [← hsecond]
    exact fun _ => property_of_time hnano
  case h_2 hnone =>
    apply Makes.of_not_possible
    rintro ⟨t, ht⟩
    rw [(timeOfParts?_eq_some_iff hz).2 ht] at hnone
    cases hnone

-- Every part counts as it is, but for a second below zero: with an hour and a minute of the day it
-- makes the time that second zero makes.
theorem call_parts : Makes .date (IsDate i j k) [("year", i), ("month", j), ("day", k)]
      (Registry.builtins.call "date" [.number x, .number y, .number z]) ∧
    Makes .time (IsTime i j (max 0 k)) [("hour", i), ("minute", j), ("second", max 0 k)]
      (Registry.builtins.call "time" [.number x, .number y, .number z]) ∧
    (Makes .time (IsTime i j k) [("hour", i), ("minute", j), ("second", k)]
      (Registry.builtins.call "time" [.number x, .number y, .number z]) ↔
        ¬(k < 0 ∧ IsTime i j 0)) := by
  have htime := call_time hx hy hz
  refine ⟨call_date hx hy hz, htime, ?_⟩
  by_cases hk : k < 0
  case pos =>
    rw [max_eq_left hk.le] at htime
    have hnot : ¬IsTime i j k := fun h => absurd h.seconds.1 hk.not_ge
    constructor
    · rintro hclaim ⟨-, hpossible⟩
      obtain ⟨v, hok, -⟩ := htime.made hpossible
      obtain ⟨text, herror⟩ := hclaim.refused hnot
      rw [hok] at herror
      cases herror
    · intro himpossible
      exact ⟨fun h => absurd h hnot, fun _ => htime.refused fun h => himpossible ⟨hk, h⟩⟩
  case neg =>
    rw [max_eq_right (not_lt.1 hk)] at htime
    exact iff_of_true htime fun h => hk h.1

end Calls

theorem call_parts_below_zero : (Number.toInt? 1 = some 1 ∧ Number.toInt? 2 = some 2 ∧
      Number.toInt? (-5) = some (-5)) ∧
    Makes .time (IsTime 1 2 0) [("hour", 1), ("minute", 2), ("second", 0)]
      (Registry.builtins.call "time" [.number 1, .number 2, .number (-5)]) ∧
    ¬Makes .time (IsTime 1 2 (-5)) [("hour", 1), ("minute", 2), ("second", -5)]
      (Registry.builtins.call "time" [.number 1, .number 2, .number (-5)]) := by
  have hone : Number.toInt? 1 = some 1 := by decide +kernel
  have htwo : Number.toInt? 2 = some 2 := by decide +kernel
  have hfive : Number.toInt? (-5) = some (-5) := by decide +kernel
  obtain ⟨-, htime, hclaim⟩ := call_parts hone htwo hfive
  refine ⟨⟨hone, htwo, hfive⟩, htime, ?_⟩
  rw [hclaim, not_not]
  exact ⟨by decide, by constructor <;> decide⟩

end Builtin

end Rulebook
