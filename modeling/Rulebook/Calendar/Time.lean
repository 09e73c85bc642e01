import Rulebook.Calendar.Date

/-!
Times of day to the nanosecond. The last second of a minute may be a leap second: its nanoseconds
then run on from one to two thousand million.
-/

namespace Rulebook.Calendar

def nanosPerSecond : Nat := 1000000000

def secondsPerDay : Nat := 86400

structure Time where
  second : Nat
  nano : Nat
  second_lt : second < secondsPerDay
  nano_lt : nano < 2 * nanosPerSecond
  leap_last : nanosPerSecond ≤ nano → second % 60 = 59
  deriving DecidableEq

namespace Time

def midnight : Time where
  second := 0
  nano := 0
  second_lt := by decide
  nano_lt := by decide
  leap_last := by decide

def ofParts? (hour minute second nano : Nat) : Option Time :=
  if h : (hour < 24 ∧ minute < 60 ∧ second < 60) ∧
      nano < 2 * nanosPerSecond ∧ (nanosPerSecond ≤ nano → second = 59) then
    some
      { second := hour * 3600 + minute * 60 + second
        nano := nano
        second_lt := by simp only [secondsPerDay]; omega
        nano_lt := h.2.1
        leap_last := fun hn => by have := h.2.2 hn; omega }
  else none

def hour (t : Time) : Nat := t.second / 3600

def minute (t : Time) : Nat := t.second / 60 % 60

def secondOfMinute (t : Time) : Nat := t.second % 60

def isLeap (t : Time) : Bool :=
  nanosPerSecond ≤ t.nano

theorem ofParts?_self (t : Time) :
    ofParts? t.hour t.minute t.secondOfMinute t.nano = some t := by
  have h₁ := t.second_lt
  have h₂ := t.leap_last
  have h₃ := t.nano_lt
  simp only [secondsPerDay] at h₁
  have hs : t.hour * 3600 + t.minute * 60 + t.secondOfMinute = t.second := by
    simp only [hour, minute, secondOfMinute]; omega
  have hp : (t.hour < 24 ∧ t.minute < 60 ∧ t.secondOfMinute < 60) ∧
      t.nano < 2 * nanosPerSecond ∧ (nanosPerSecond ≤ t.nano → t.secondOfMinute = 59) := by
    refine ⟨?_, h₃, h₂⟩
    simp only [hour, minute, secondOfMinute]; omega
  rw [ofParts?, dif_pos hp]
  cases t
  simp only [Option.some.injEq, mk.injEq, and_true]
  exact hs

-- `nanos` counted from midnight, and the days that they fill.
def ofNanos (nanos : Int) : Time × Int :=
  let inDay := (nanos % 86400000000000).toNat
  ({ second := inDay / 1000000000
     nano := inDay % 1000000000
     second_lt := by simp only [secondsPerDay]; omega
     nano_lt := by simp only [nanosPerSecond]; omega
     leap_last := fun h => by simp only [nanosPerSecond] at h; omega },
   nanos / 86400000000000)

-- Nanoseconds from midnight in a day that has no leap second.
def nanos (t : Time) : Int :=
  t.second * 1000000000 + t.nano

-- Moves by milliseconds, and the days that went by. Within a leap second a fraction of a second
-- moves inside it; leaving it forwards it does not count, backwards it counts as the next second.
def addMillis (t : Time) (millis : Int) : Time × Int :=
  let seconds := millis.tdiv 1000
  let shifted := t.nano + millis.tmod 1000 * 1000000
  if h : t.isLeap = true ∧ seconds = 0 ∧ shifted < 2000000000 then
    ({ t with
        nano := shifted.toNat
        nano_lt := by simp only [nanosPerSecond]; omega
        leap_last := fun _ => t.leap_last (by simpa [isLeap] using h.1) }, 0)
  else if t.isLeap = true ∧ 0 ≤ millis then
    ofNanos (t.nanos - nanosPerSecond + millis * 1000000)
  else
    ofNanos (t.nanos + millis * 1000000)

-- The nanoseconds from `start` to `finish`; a leap second at the earlier end counts.
def nanosBetween (finish start : Time) : Int :=
  let extra : Int :=
    if start.second < finish.second ∧ start.isLeap = true then 1
    else if finish.second < start.second ∧ finish.isLeap = true then -1
    else 0
  finish.nanos - start.nanos + extra * nanosPerSecond

def compare (a b : Time) : Ordering :=
  (Ord.compare a.second b.second).then (Ord.compare a.nano b.nano)

end Time

end Rulebook.Calendar
