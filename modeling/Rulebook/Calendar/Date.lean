/-!
Dates of the Gregorian calendar, carried on before its introduction. Days are numbered from the
first of January of the year 1, which is day 1.
-/

namespace Rulebook.Calendar

def isLeapYear (year : Int) : Bool :=
  year % 4 == 0 && (year % 100 != 0 || year % 400 == 0)

def daysInMonth (year : Int) : (month : Nat) → Nat
  | 1 | 3 | 5 | 7 | 8 | 10 | 12 => 31
  | 4 | 6 | 9 | 11 => 30
  | 2 => if isLeapYear year then 29 else 28
  | _ => 0

def minYear : Int := -262143

def maxYear : Int := 262142

def isDay (year : Int) (month day : Nat) : Bool :=
  minYear ≤ year && year ≤ maxYear && 1 ≤ day && day ≤ daysInMonth year month

structure Date where
  year : Int
  month : Nat
  day : Nat
  valid : isDay year month day = true
  deriving DecidableEq

namespace Date

def ofParts? (year : Int) (month day : Nat) : Option Date :=
  if h : isDay year month day = true then some ⟨year, month, day, h⟩ else none

theorem ofParts?_self (d : Date) : ofParts? d.year d.month d.day = some d := by
  simp [ofParts?, d.valid]

theorem ofParts?_eq_some_iff {year : Int} {month day : Nat} {d : Date} :
    ofParts? year month day = some d ↔ d.year = year ∧ d.month = month ∧ d.day = day := by
  constructor
  · intro h
    simp only [ofParts?] at h
    split at h
    · cases h; simp
    · simp at h
  · rintro ⟨rfl, rfl, rfl⟩
    exact d.ofParts?_self

def daysBeforeYear (year : Int) : Int :=
  365 * (year - 1) + (year - 1) / 4 - (year - 1) / 100 + (year - 1) / 400

def daysBeforeMonth (year : Int) : (month : Nat) → Nat
  | 0 | 1 => 0
  | month + 2 => daysBeforeMonth year (month + 1) + daysInMonth year (month + 1)

def dayNumber (d : Date) : Int :=
  daysBeforeYear d.year + daysBeforeMonth d.year d.month + d.day

-- Four centuries have 146097 days, so the estimate is off by one year at most.
def yearOfDay (n : Int) : Int :=
  let estimate := (n - 1) * 400 / 146097 + 1
  if n ≤ daysBeforeYear estimate then estimate - 1
  else if daysBeforeYear (estimate + 1) < n then estimate + 1
  else estimate

-- The last of the months `1` to `month` that begins before the given day of the year.
def monthOfDay (year : Int) (dayOfYear : Int) : (month : Nat) → Nat
  | 0 => 1
  | month + 1 =>
    if daysBeforeMonth year (month + 1) < dayOfYear then month + 1
    else monthOfDay year dayOfYear month

def ofDayNumber? (n : Int) : Option Date :=
  let year := yearOfDay n
  let dayOfYear := n - daysBeforeYear year
  let month := monthOfDay year dayOfYear 12
  ofParts? year month (dayOfYear - daysBeforeMonth year month).toNat

def addDays? (d : Date) (days : Int) : Option Date :=
  ofDayNumber? (d.dayNumber + days)

-- A day past the end of the month becomes its last day.
def addMonths? (d : Date) (months : Int) : Option Date :=
  let total := d.year * 12 + (d.month - 1 : Int) + months
  let year := total / 12
  let month := (total % 12).toNat + 1
  ofParts? year month (min d.day (daysInMonth year month))

-- Monday is 1.
def weekday (d : Date) : Int :=
  (d.dayNumber + 6) % 7 + 1

def weekdayName (d : Date) : String :=
  match d.weekday with
  | 1 => "Monday"
  | 2 => "Tuesday"
  | 3 => "Wednesday"
  | 4 => "Thursday"
  | 5 => "Friday"
  | 6 => "Saturday"
  | _ => "Sunday"

def compare (a b : Date) : Ordering :=
  (Ord.compare a.year b.year).then ((Ord.compare a.month b.month).then (Ord.compare a.day b.day))

-- The months from `start` to `finish`, completed ones only.
def monthsBetween (finish start : Date) : Int :=
  let months := (finish.year - start.year) * 12 + finish.month - start.month
  if 0 < months ∧ finish.day < start.day then months - 1
  else if months < 0 ∧ start.day < finish.day then months + 1
  else months

end Date

end Rulebook.Calendar
