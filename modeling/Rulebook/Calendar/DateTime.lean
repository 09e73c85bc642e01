import Rulebook.Calendar.Time

/-!
A date together with a time of day.
-/

namespace Rulebook.Calendar

structure DateTime where
  date : Date
  time : Time
  deriving DecidableEq

namespace DateTime

def addMillis? (d : DateTime) (millis : Int) : Option DateTime :=
  let (time, days) := d.time.addMillis millis
  (d.date.addDays? days).map fun date => ⟨date, time⟩

def nanosBetween (finish start : DateTime) : Int :=
  (finish.date.dayNumber - start.date.dayNumber) * (secondsPerDay * nanosPerSecond) +
    finish.time.nanosBetween start.time

def compare (a b : DateTime) : Ordering :=
  (a.date.compare b.date).then (a.time.compare b.time)

end DateTime

end Rulebook.Calendar
