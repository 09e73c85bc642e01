import Rulebook.Builtin.Arguments

/-!
Functions of dates, times and durations.
-/

namespace Rulebook.Builtin

open Calendar

def orError {α : Type} (r : Except Malformed α) : Outcome α :=
  r.mapError .malformed

-- Three parts that make up nothing of their kind.
def malformedParts {α : Type} (kind : Kind) (separator : String) (parts : List String) :
    Outcome α :=
  .error (.malformed ⟨kind, Text.joined separator parts⟩)

def dateOfParts? (year month day : Int) : Option Date :=
  if month < 0 ∨ day < 0 then none else Date.ofParts? year month.toNat day.toNat

def dateOfParts (arguments : List Value) : Outcome Value := do
  let year ← expectInteger "date" arguments 0
  let month ← expectInteger "date" arguments 1
  let day ← expectInteger "date" arguments 2
  match dateOfParts? year month day with
  | some d => .ok (.date d)
  | none => malformedParts .date "-" [toString year, toString month, toString day]

def makeDate (arguments : List Value) : Outcome Value :=
  match arguments with
  | [.string s] => do .ok (.date (← orError (readDate s)))
  | [.dateTime d] => .ok (.date d.date)
  | [.date d] => .ok (.date d)
  | [_, _, _] => dateOfParts arguments
  | _ => invalid "date" (.other "expected a string, a date and time, or year, month and day")

-- A part of a second below zero counts as zero.
def nanosOfSecond (second : Float) : Nat :=
  (Number.clampToInt 0 (UInt32.size - 1) (Number.round (Number.fraction second * 1000000000))).toNat

def wholeSecond (second : Float) : Nat :=
  (Number.clampToInt 0 (UInt32.size - 1) second).toNat

def timeOfParts? (hour minute : Int) (second : Float) : Option Time :=
  if hour < 0 ∨ minute < 0 then none
  else Time.ofParts? hour.toNat minute.toNat (wholeSecond second) (nanosOfSecond second)

def timeOfParts (arguments : List Value) : Outcome Value := do
  let hour ← expectInteger "time" arguments 0
  let minute ← expectInteger "time" arguments 1
  let second ← expectNumber "time" arguments 2
  match timeOfParts? hour minute second with
  | some t => .ok (.time t)
  | none => malformedParts .time ":" [toString hour, toString minute, Number.text second]

def makeTime (arguments : List Value) : Outcome Value :=
  match arguments with
  | [.string s] => do .ok (.time (← orError (readTime s)))
  | [.dateTime d] => .ok (.time d.time)
  | [.time t] => .ok (.time t)
  | [_, _, _] => timeOfParts arguments
  | _ => invalid "time" (.other "expected a string, a date and time, or hour, minute and second")

def makeDateTime (arguments : List Value) : Outcome Value :=
  match arguments with
  | [.string s] => do .ok (.dateTime (← orError (readDateTime s)))
  | [.dateTime d] => .ok (.dateTime d)
  | [.date d, .time t] => .ok (.dateTime ⟨d, t⟩)
  | [.dateTime d, .time t] => .ok (.dateTime ⟨d.date, t⟩)
  | _ => invalid "date_and_time" (.other "expected a string, or a date and a time")

def makeDuration (arguments : List Value) : Outcome Value := do
  .ok (.duration (← orError (readDuration (← expectString "duration" arguments 0))))

def calendarDate (function : String) : Value → Outcome Date
  | .date d => .ok d
  | .dateTime d => .ok d.date
  | v => invalid function (.other ("expected a date, got " ++ v.typeName))

def monthsFromTo (arguments : List Value) : Outcome Value := do
  let start ← calendarDate "years_and_months_duration" ((arguments[0]?).getD .null)
  let finish ← calendarDate "years_and_months_duration" ((arguments[1]?).getD .null)
  .ok (.duration ⟨Date.monthsBetween finish start, 0⟩)

def dayOfWeek (arguments : List Value) : Outcome Value := do
  .ok (.string (← calendarDate "day_of_week" ((arguments[0]?).getD .null)).weekdayName)

def calendars : List Function :=
  [⟨"date", .range 1 3, true, makeDate⟩,
   ⟨"time", .range 1 3, true, makeTime⟩,
   ⟨"date_and_time", .range 1 2, true, makeDateTime⟩,
   ⟨"duration", .exact 1, true, makeDuration⟩,
   ⟨"years_and_months_duration", .exact 2, true, monthsFromTo⟩,
   ⟨"day_of_week", .exact 1, true, dayOfWeek⟩]

end Rulebook.Builtin
