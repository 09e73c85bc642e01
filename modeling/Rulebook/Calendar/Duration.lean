import Rulebook.Number.Shortest

/-!
Durations: a calendar part in months and an exact part in milliseconds, each a 64-bit integer. An
operation whose result does not fit has none.
-/

namespace Rulebook.Calendar

-- `- 2 ^ 63`.
def minPart : Int := -9223372036854775808

-- `2 ^ 63 - 1`.
def maxPart : Int := 9223372036854775807

def fits (n : Int) : Bool :=
  minPart ≤ n && n ≤ maxPart

theorem fits_iff {n : Int} :
    fits n = true ↔ -9223372036854775808 ≤ n ∧ n ≤ 9223372036854775807 := by
  rw [fits, Bool.and_eq_true, decide_eq_true_eq, decide_eq_true_eq, minPart, maxPart]

def millisPerDay : Int := 86400000

structure Duration where
  months : Int
  millis : Int
  deriving DecidableEq

namespace Duration

def zero : Duration := ⟨0, 0⟩

def ofParts? (months millis : Int) : Option Duration :=
  if fits months && fits millis then some ⟨months, millis⟩ else none

def add? (a b : Duration) : Option Duration :=
  ofParts? (a.months + b.months) (a.millis + b.millis)

def negate? (d : Duration) : Option Duration :=
  ofParts? (-d.months) (-d.millis)

-- The product rounded to a whole number, a half away from zero.
def scalePart? (part : Int) (factor : Float) : Option Int :=
  (Number.toInt? (Number.round (Number.ofInt part * factor))).filter fits

def scale? (d : Duration) (factor : Float) : Option Duration := do
  some ⟨← scalePart? d.months factor, ← scalePart? d.millis factor⟩

def isDayTime (d : Duration) : Bool := d.months == 0

def isYearMonth (d : Duration) : Bool := d.millis == 0

-- Only durations of one kind are ordered; the zero duration is of both kinds.
def compare? (a b : Duration) : Option Ordering :=
  if a.isDayTime && b.isDayTime then some (compare a.millis b.millis)
  else if a.isYearMonth && b.isYearMonth then some (compare a.months b.months)
  else if a = b then some .eq
  else none

-- The length in the unit of the duration's kind.
def magnitude (d : Duration) : Float :=
  Number.ofInt (if d.isDayTime then d.millis else d.months)

-- The fields carry the sign of the duration.
def years (d : Duration) : Int := d.months.tdiv 12

def monthOfYear (d : Duration) : Int := d.months.tmod 12

def days (d : Duration) : Int := d.millis.tdiv millisPerDay

def hours (d : Duration) : Int := (d.millis.tmod millisPerDay).tdiv 3600000

def minutes (d : Duration) : Int := (d.millis.tmod 3600000).tdiv 60000

def seconds (d : Duration) : Float := Number.ofInt (d.millis.tmod 60000) / 1000

theorem compare?_swap (a b : Duration) : compare? b a = (compare? a b).map Ordering.swap := by
  simp only [compare?, Bool.and_comm (isDayTime b), Bool.and_comm (isYearMonth b)]
  split
  · simp only [Option.map_some, Option.some.injEq]; exact (Int.compare_swap _ _).symm
  · split
    · simp only [Option.map_some, Option.some.injEq]; exact (Int.compare_swap _ _).symm
    · by_cases h : a = b
      · simp [h]
      · simp [h, Ne.symm h]

end Duration

end Rulebook.Calendar
