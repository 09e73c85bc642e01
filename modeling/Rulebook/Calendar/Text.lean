import Rulebook.Calendar.DateTime
import Rulebook.Calendar.Duration
import Rulebook.Number.Reading
import Rulebook.Text.Quoted
import Rulebook.Unicode.Edition

/-!
Texts of dates (`2024-01-31`), times (`08:15`, `08:15:30.5`), dates and times joined by a `T`, and
durations (`P1Y2M`, `-P2DT3H4M5.5S`).
-/

namespace Rulebook.Calendar

inductive Kind
  | date
  | time
  | duration
  deriving DecidableEq

def Kind.name : Kind → String
  | .date => "date"
  | .time => "time"
  | .duration => "duration"

-- A text that denotes nothing of its kind.
structure Malformed where
  kind : Kind
  text : String
  deriving DecidableEq

-- Decimal digits, filled up with zeros in front.
def padded (width n : Nat) : String :=
  let digits := Nat.toDigits 10 n
  String.ofList (List.replicate (width - digits.length) '0' ++ digits)

-- A year beyond four digits has a plus sign.
def yearText (year : Int) : String :=
  let sign := if year < 0 then "-" else if 9999 < year then "+" else ""
  sign ++ padded 4 year.natAbs

def Date.text (d : Date) : String :=
  yearText d.year ++ "-" ++ padded 2 d.month ++ "-" ++ padded 2 d.day

-- No fraction, or one of three, six or nine digits.
def fractionText (nanos : Nat) : String :=
  if nanos = 0 then ""
  else if nanos % 1000000 = 0 then "." ++ padded 3 (nanos / 1000000)
  else if nanos % 1000 = 0 then "." ++ padded 6 (nanos / 1000)
  else "." ++ padded 9 nanos

-- A leap second is second 60.
def Time.text (t : Time) : String :=
  padded 2 t.hour ++ ":" ++ padded 2 t.minute ++ ":" ++
    padded 2 (t.secondOfMinute + t.nano / nanosPerSecond) ++ fractionText (t.nano % nanosPerSecond)

def DateTime.text (d : DateTime) : String :=
  d.date.text ++ "T" ++ d.time.text

-- `n` of the unit, nothing if there is none.
def component (n : Nat) (unit : String) : String :=
  if n = 0 then "" else toString n ++ unit

def secondsText (millis : Nat) : String :=
  if millis = 0 then ""
  else if millis % 1000 = 0 then toString (millis / 1000) ++ "S"
  else Number.text (Number.ofInt millis / 1000) ++ "S"

-- One sign for both parts.
def Duration.text (d : Duration) : String :=
  if d = Duration.zero then "PT0S"
  else
    let months := d.months.natAbs
    let millis := d.millis.natAbs
    let rest := millis % 86400000
    (if d.months < 0 ∨ d.millis < 0 then "-P" else "P") ++
      component (months / 12) "Y" ++ component (months % 12) "M" ++
      component (millis / 86400000) "D" ++
      if rest = 0 then ""
      else
        "T" ++ component (rest / 3600000) "H" ++ component (rest % 3600000 / 60000) "M" ++
          secondsText (rest % 60000)

-- What is read from the front of a text, with the rest.
abbrev Reading (α : Type) := Option (α × List Char)

-- One to `width` digits, with blanks in front.
def readNumber (width : Nat) (cs : List Char) : Reading Nat :=
  let body := cs.dropWhile Unicode.isBlank
  let digits := (body.take width).takeWhile Char.isDigit
  if digits.isEmpty then none
  else some (Number.digitsValue digits, body.drop digits.length)

-- A year has up to four digits, or a sign and any number of them.
def readYear (cs : List Char) : Reading Int :=
  let signed (sign : Int) (rest : List Char) : Reading Int :=
    let digits := rest.takeWhile Char.isDigit
    if digits.isEmpty then none
    else some (sign * Number.digitsValue digits, rest.drop digits.length)
  match cs.dropWhile Unicode.isBlank with
  | '-' :: rest => signed (-1) rest
  | '+' :: rest => signed 1 rest
  | body => (readNumber 4 body).map fun (year, rest) => (year, rest)

def readMark (mark : Char) : List Char → Option (List Char)
  | c :: rest => if c = mark then some rest else none
  | [] => none

def atEnd (cs : List Char) : Option Unit :=
  if cs.isEmpty then some () else none

-- Nanoseconds from an optional fraction; digits past the ninth do not count.
def readFraction : List Char → Reading Nat
  | '.' :: rest =>
    let digits := rest.takeWhile Char.isDigit
    let nine := digits.take 9
    if digits.isEmpty then none
    else some (Number.digitsValue nine * Nat.pow 10 (9 - nine.length), rest.drop digits.length)
  | rest => some (0, rest)

def dateOfChars? (cs : List Char) : Option Date := do
  let (year, cs) ← readYear cs
  let cs ← readMark '-' cs
  let (month, cs) ← readNumber 2 cs
  let cs ← readMark '-' cs
  let (day, cs) ← readNumber 2 cs
  atEnd cs
  Date.ofParts? year month day

-- Second 60 is the leap second after second 59.
def timeWithSeconds? (cs : List Char) : Option Time := do
  let (hour, cs) ← readNumber 2 cs
  let cs ← readMark ':' cs
  let (minute, cs) ← readNumber 2 cs
  let cs ← readMark ':' cs
  let (second, cs) ← readNumber 2 cs
  let (nano, cs) ← readFraction cs
  atEnd cs
  if second = 60 then Time.ofParts? hour minute 59 (nanosPerSecond + nano)
  else Time.ofParts? hour minute second nano

def timeToMinutes? (cs : List Char) : Option Time := do
  let (hour, cs) ← readNumber 2 cs
  let cs ← readMark ':' cs
  let (minute, cs) ← readNumber 2 cs
  atEnd cs
  Time.ofParts? hour minute 0 0

def timeOfChars? (cs : List Char) : Option Time :=
  (timeWithSeconds? cs).or (timeToMinutes? cs)

def orMalformed {α : Type} (kind : Kind) (text : String) : Option α → Except Malformed α
  | some a => .ok a
  | none => .error ⟨kind, text⟩

def readDate (text : String) : Except Malformed Date :=
  orMalformed .date text (dateOfChars? (Text.trim text).toList)

def readTime (text : String) : Except Malformed Time :=
  orMalformed .time text (timeOfChars? (Text.trim text).toList)

-- The text is cut at the first `T`; without one it is the midnight of a date.
def readDateTime (text : String) : Except Malformed DateTime := do
  let cs := (Text.trim text).toList
  match cs.dropWhile (· != 'T') with
  | [] => return ⟨← readDate (String.ofList cs), Time.midnight⟩
  | _ :: time =>
    let date ← readDate (String.ofList (cs.takeWhile (· != 'T')))
    return ⟨date, ← readTime (String.ofList time)⟩

-- Digits before the given unit, if they are there.
def readComponent (unit : Char) (cs : List Char) : List Char × List Char :=
  let digits := cs.takeWhile Unicode.isDecimalDigit
  match cs.drop digits.length with
  | c :: rest => if c = unit ∧ digits ≠ [] then (digits, rest) else ([], cs)
  | [] => ([], cs)

-- A count that is too large, or is not written in plain digits, counts as none.
def componentValue (digits : List Char) : Int :=
  let n : Int := Number.digitsValue digits
  if digits.all Char.isDigit && fits n then n else 0

def secondsValue (digits : List Char) : Float :=
  (Number.read? digits).getD 0

-- Digits with an optional fraction before the unit of seconds.
def readSeconds (cs : List Char) : List Char × List Char :=
  let whole := cs.takeWhile Unicode.isDecimalDigit
  match cs.drop whole.length with
  | '.' :: rest =>
    let (fraction, after) := readComponent 'S' rest
    if whole.isEmpty || fraction.isEmpty then ([], cs) else (whole ++ '.' :: fraction, after)
  | _ => readComponent 'S' cs

def yearMonthOfChars? (cs : List Char) : Option (Option Int) := do
  let (years, cs) := readComponent 'Y' cs
  let (months, cs) := readComponent 'M' cs
  atEnd cs
  let total := componentValue years * 12 + componentValue months
  return if fits total then some total else none

def dayTimeOfChars? (cs : List Char) : Option (Option Int) := do
  let (days, cs) := readComponent 'D' cs
  let (hours, minutes, seconds, cs) :=
    match cs with
    | 'T' :: cs =>
      let (hours, cs) := readComponent 'H' cs
      let (minutes, cs) := readComponent 'M' cs
      let (seconds, cs) := readSeconds cs
      (hours, minutes, seconds, cs)
    | _ => ([], [], [], cs)
  atEnd cs
  return do
    let millis ← Duration.scalePart? 1000 (secondsValue seconds)
    let total := componentValue days * millisPerDay + componentValue hours * 3600000 +
      componentValue minutes * 60000 + millis
    if fits total then some total else none

-- The forms are told apart by their units. A form that fits decides, even if its length has no
-- place among the durations.
def durationOfChars? (cs : List Char) : Option Duration :=
  let (negative, body) :=
    match cs with
    | '-' :: rest => (true, rest)
    | _ => (false, cs)
  let signed (n : Int) : Int := if negative then -n else n
  match body with
  | 'P' :: rest =>
    match yearMonthOfChars? rest, dayTimeOfChars? rest with
    | some months, _ => months.bind fun n => Duration.ofParts? (signed n) 0
    | none, some millis => millis.bind fun n => Duration.ofParts? 0 (signed n)
    | none, none => none
  | _ => none

def readDuration (text : String) : Except Malformed Duration :=
  let trimmed := Text.trim text
  let cs := trimmed.toList
  let last := cs.getLast?
  if last = some 'P' ∨ last = some 'T' then .error ⟨.duration, trimmed⟩
  else orMalformed .duration trimmed (durationOfChars? cs)

end Rulebook.Calendar
