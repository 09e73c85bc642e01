import Rulebook.Calendar.Text
import Rulebook.Proofs.Number.Digits

/-!
The fields of a duration's text, digits before their units. A reader takes the digits of its unit
and leaves those of other units, so that the fields come back from the text.
-/

namespace Rulebook.Calendar

open Unicode (isDecimalDigit isBlank)

variable {unit c : Char} {digits cs rest : List Char}

-- Digits of a whole number. A count without digits is left out of a text.
structure Count where
  digits : List Char
  isDigit : ∀ c ∈ digits, c.isDigit = true

def inUnit (unit : Char) (digits : List Char) : List Char :=
  if digits = [] then [] else digits ++ [unit]

theorem inUnit_append (h : digits ≠ []) : inUnit unit digits ++ rest = digits ++ unit :: rest := by
  rw [inUnit, if_neg h, List.append_assoc, List.singleton_append]

theorem inUnit_eq_nil_iff : inUnit unit digits = [] ↔ digits = [] := by
  simp [inUnit]

-- There are no digits before the unit at the front of the text.
def Lacks (unit : Char) (cs : List Char) : Prop :=
  readComponent unit cs = ([], cs)

theorem isDecimalDigit_of_isDigit (h : c.isDigit = true) : isDecimalDigit c = true := by
  have hlt : c.toNat < 128 := by
    simp only [Char.isDigit, Bool.and_eq_true, decide_eq_true_eq, UInt32.le_iff_toNat_le] at h
    exact h.2.trans_lt (by decide)
  rw [isDecimalDigit, if_pos hlt, h]

theorem Count.isDecimalDigit (n : Count) : ∀ c ∈ n.digits, isDecimalDigit c = true :=
  fun c hc => isDecimalDigit_of_isDigit (n.isDigit c hc)

section Component

variable (hdigits : ∀ c ∈ digits, isDecimalDigit c = true)
include hdigits

theorem takeWhile_digits (hc : isDecimalDigit c = false) :
    (digits ++ c :: rest).takeWhile isDecimalDigit = digits := by
  rw [List.takeWhile_append_of_pos hdigits, List.takeWhile_cons_of_neg (by simp [hc]),
    List.append_nil]

theorem readComponent_digits (hunit : isDecimalDigit unit = false) (hne : digits ≠ []) :
    readComponent unit (digits ++ unit :: rest) = (digits, rest) := by
  simp [readComponent, takeWhile_digits hdigits hunit, hne]

theorem lacks_digits (hc : isDecimalDigit c = false) (hne : c ≠ unit) :
    Lacks unit (digits ++ c :: rest) := by
  simp [Lacks, readComponent, takeWhile_digits hdigits hc, hne]

theorem lacks_inUnit {other : Char} (hother : isDecimalDigit other = false) (hne : other ≠ unit)
    (h : Lacks unit rest) : Lacks unit (inUnit other digits ++ rest) := by
  by_cases hnone : digits = []
  case pos => simpa [inUnit, hnone] using h
  case neg =>
    rw [inUnit_append hnone]
    exact lacks_digits hdigits hother hne

theorem readComponent_inUnit (hunit : isDecimalDigit unit = false) (h : Lacks unit rest) :
    readComponent unit (inUnit unit digits ++ rest) = (digits, rest) := by
  by_cases hnone : digits = []
  case pos => simpa [inUnit, hnone] using! h
  case neg =>
    rw [inUnit_append hnone]
    exact readComponent_digits hdigits hunit hnone

end Component

theorem lacks_nil : Lacks unit [] := rfl

theorem lacks_cons (hc : isDecimalDigit c = false) : Lacks unit (c :: rest) := by
  simp [Lacks, readComponent, hc]

-- The last character of what is written in units is one of them.
def units : List Char :=
  ['Y', 'M', 'D', 'H', 'S']

def EndsInUnit (cs : List Char) : Prop :=
  ∀ c ∈ cs.getLast?, c ∈ units

theorem endsInUnit_nil : EndsInUnit [] := by
  simp [EndsInUnit]

theorem endsInUnit_inUnit (h : unit ∈ units) : EndsInUnit (inUnit unit digits) := by
  rw [inUnit]
  split
  · exact endsInUnit_nil
  · simpa [EndsInUnit] using h

namespace EndsInUnit

theorem append {cs' : List Char} (h : EndsInUnit cs) (h' : EndsInUnit cs') :
    EndsInUnit (cs ++ cs') := by
  intro c hc
  rw [List.getLast?_append, Option.mem_def, Option.or_eq_some_iff] at hc
  obtain hc | ⟨-, hc⟩ := hc
  · exact h' c hc
  · exact h c hc

theorem getLast?_append (h : EndsInUnit cs) (hne : cs ≠ []) :
    ∃ c ∈ units, ∀ front, (front ++ cs).getLast? = some c := by
  have hlast := List.getLast?_eq_some_getLast hne
  refine ⟨cs.getLast hne, h _ hlast, fun front => ?_⟩
  rw [List.getLast?_append, hlast, Option.some_or]

end EndsInUnit

theorem dropWhile_of_head? {p : Char → Bool} (h : ∀ c ∈ cs.head?, p c = false) :
    cs.dropWhile p = cs := by
  cases cs with
  | nil => rfl
  | cons c cs => exact List.dropWhile_cons_of_neg (by simp [h c rfl])

theorem trim_ofList (hfirst : ∀ c ∈ cs.head?, isBlank c = false)
    (hlast : ∀ c ∈ cs.getLast?, isBlank c = false) :
    Text.trim (String.ofList cs) = String.ofList cs := by
  have hreverse : ∀ c ∈ cs.reverse.head?, isBlank c = false := by
    rwa [List.head?_reverse]
  simp only [Text.trim, String.toList_ofList]
  rw [dropWhile_of_head? hfirst, dropWhile_of_head? hreverse, List.reverse_reverse]

section Seconds

variable (ds : Number.Digits)

theorem inUnit_written : inUnit 'S' ds.written =
    ds.whole ++ if ds.fraction = [] then ['S'] else '.' :: (ds.fraction ++ ['S']) := by
  have hne := ds.nonempty
  by_cases hnone : ds.fraction = [] <;> simp [Number.Digits.written, inUnit, hnone, hne]

theorem isDecimalDigit_of_mem_whole : ∀ c ∈ ds.whole, isDecimalDigit c = true :=
  fun c hc => isDecimalDigit_of_isDigit (ds.isDigit c (List.mem_append_left _ hc))

theorem isDecimalDigit_of_mem_fraction : ∀ c ∈ ds.fraction, isDecimalDigit c = true :=
  fun c hc => isDecimalDigit_of_isDigit (ds.isDigit c (List.mem_append_right _ hc))

theorem readSeconds_written : readSeconds (inUnit 'S' ds.written) = (ds.written, []) := by
  have hne := ds.nonempty
  have hwhole := isDecimalDigit_of_mem_whole ds
  rw [inUnit_written, Number.Digits.written]
  by_cases hnone : ds.fraction = []
  case pos =>
    have hunit : (ds.whole ++ ['S']).takeWhile isDecimalDigit = ds.whole :=
      takeWhile_digits hwhole (by decide)
    have hread : readComponent 'S' (ds.whole ++ ['S']) = (ds.whole, []) :=
      readComponent_digits hwhole (by decide) hne
    simp [readSeconds, hnone, hunit, hread]
  case neg =>
    have hpoint : (ds.whole ++ '.' :: (ds.fraction ++ ['S'])).takeWhile isDecimalDigit = ds.whole :=
      takeWhile_digits hwhole (by decide)
    have hread : readComponent 'S' (ds.fraction ++ ['S']) = (ds.fraction, []) :=
      readComponent_digits (isDecimalDigit_of_mem_fraction ds) (by decide) hnone
    simp [readSeconds, hnone, hne, hpoint, hread]

theorem lacks_written (h : unit ≠ 'S') (hpoint : unit ≠ '.') :
    Lacks unit (inUnit 'S' ds.written) := by
  have hwhole := isDecimalDigit_of_mem_whole ds
  rw [inUnit_written]
  split
  · exact lacks_digits hwhole (by decide) h.symm
  · exact lacks_digits hwhole (by decide) hpoint.symm

end Seconds

def writtenSeconds (seconds : Option Number.Digits) : List Char :=
  match seconds with
  | none => []
  | some ds => ds.written

theorem writtenSeconds_eq_nil_iff {seconds : Option Number.Digits} :
    writtenSeconds seconds = [] ↔ seconds = none := by
  cases seconds with
  | none => simp [writtenSeconds]
  | some ds =>
    obtain ⟨c, cs, hcons, -⟩ := ds.exists_written_eq_cons
    simp [writtenSeconds, hcons]

-- The fields of both forms, each as it stands in the text.
structure Fields where
  years : Count
  months : Count
  days : Count
  hours : Count
  minutes : Count
  seconds : Option Number.Digits

namespace Fields

variable (f : Fields)

def secondsDigits : List Char :=
  writtenSeconds f.seconds

def time : List Char :=
  inUnit 'H' f.hours.digits ++ (inUnit 'M' f.minutes.digits ++ inUnit 'S' f.secondsDigits)

-- The mark of the time stands only before a time.
def exactPart : List Char :=
  inUnit 'D' f.days.digits ++ if f.time = [] then [] else 'T' :: f.time

def body : List Char :=
  inUnit 'Y' f.years.digits ++ (inUnit 'M' f.months.digits ++ f.exactPart)

def written (negative : Bool) : List Char :=
  (if negative then ['-'] else []) ++ 'P' :: f.body

theorem readSeconds_secondsDigits :
    readSeconds (inUnit 'S' f.secondsDigits) = (f.secondsDigits, []) := by
  rw [secondsDigits]
  cases f.seconds with
  | none => rfl
  | some ds => exact readSeconds_written ds

theorem lacks_seconds (h : unit ≠ 'S') (hpoint : unit ≠ '.') :
    Lacks unit (inUnit 'S' f.secondsDigits) := by
  rw [secondsDigits]
  cases f.seconds with
  | none => exact lacks_nil
  | some ds => exact lacks_written ds h hpoint

theorem lacks_markedTime : Lacks unit (if f.time = [] then [] else 'T' :: f.time) := by
  split
  · exact lacks_nil
  · exact lacks_cons (by decide)

theorem lacks_exactPart (h : unit ≠ 'D') : Lacks unit f.exactPart :=
  lacks_inUnit f.days.isDecimalDigit (by decide) h.symm f.lacks_markedTime

theorem readComponent_body : readComponent 'Y' f.body =
    (f.years.digits, inUnit 'M' f.months.digits ++ f.exactPart) :=
  readComponent_inUnit f.years.isDecimalDigit (by decide)
    (lacks_inUnit f.months.isDecimalDigit (by decide) (by decide) (f.lacks_exactPart (by decide)))

theorem readComponent_months : readComponent 'M' (inUnit 'M' f.months.digits ++ f.exactPart) =
    (f.months.digits, f.exactPart) :=
  readComponent_inUnit f.months.isDecimalDigit (by decide) (f.lacks_exactPart (by decide))

theorem readComponent_exactPart : readComponent 'D' f.exactPart =
    (f.days.digits, if f.time = [] then [] else 'T' :: f.time) :=
  readComponent_inUnit f.days.isDecimalDigit (by decide) f.lacks_markedTime

theorem readComponent_time : readComponent 'H' f.time =
    (f.hours.digits, inUnit 'M' f.minutes.digits ++ inUnit 'S' f.secondsDigits) :=
  readComponent_inUnit f.hours.isDecimalDigit (by decide)
    (lacks_inUnit f.minutes.isDecimalDigit (by decide) (by decide)
      (f.lacks_seconds (by decide) (by decide)))

theorem readComponent_minutes :
    readComponent 'M' (inUnit 'M' f.minutes.digits ++ inUnit 'S' f.secondsDigits) =
      (f.minutes.digits, inUnit 'S' f.secondsDigits) :=
  readComponent_inUnit f.minutes.isDecimalDigit (by decide)
    (f.lacks_seconds (by decide) (by decide))

theorem time_eq_nil_iff : f.time = [] ↔
    f.hours.digits = [] ∧ f.minutes.digits = [] ∧ f.secondsDigits = [] := by
  simp [time, inUnit_eq_nil_iff]

theorem exactPart_eq_nil_iff : f.exactPart = [] ↔ f.days.digits = [] ∧ f.time = [] := by
  simp [exactPart, inUnit_eq_nil_iff]

-- Two texts are the same only if they are the same field by field.
structure SameDigits (f g : Fields) : Prop where
  years : f.years.digits = g.years.digits
  months : f.months.digits = g.months.digits
  days : f.days.digits = g.days.digits
  hours : f.hours.digits = g.hours.digits
  minutes : f.minutes.digits = g.minutes.digits
  seconds : f.secondsDigits = g.secondsDigits

-- Each reader in turn takes its field from both texts, and leaves the same rest of them.
theorem sameDigits_of_body_eq {f g : Fields} (h : f.body = g.body) : SameDigits f g := by
  have hyears := congrArg (readComponent 'Y') h
  rw [f.readComponent_body, g.readComponent_body, Prod.mk.injEq] at hyears
  have hmonths := congrArg (readComponent 'M') hyears.2
  rw [f.readComponent_months, g.readComponent_months, Prod.mk.injEq] at hmonths
  have hdays := congrArg (readComponent 'D') hmonths.2
  rw [f.readComponent_exactPart, g.readComponent_exactPart, Prod.mk.injEq] at hdays
  have htime : f.time = g.time := by
    have htail := congrArg List.tail hdays.2
    by_cases hf : f.time = [] <;> by_cases hg : g.time = [] <;> simp_all
  have hhours := congrArg (readComponent 'H') htime
  rw [f.readComponent_time, g.readComponent_time, Prod.mk.injEq] at hhours
  have hminutes := congrArg (readComponent 'M') hhours.2
  rw [f.readComponent_minutes, g.readComponent_minutes, Prod.mk.injEq] at hminutes
  have hseconds := congrArg readSeconds hminutes.2
  rw [f.readSeconds_secondsDigits, g.readSeconds_secondsDigits, Prod.mk.injEq] at hseconds
  exact ⟨hyears.1, hmonths.1, hdays.1, hhours.1, hminutes.1, hseconds.1⟩

theorem written_inj {f g : Fields} {negative negative' : Bool}
    (h : f.written negative = g.written negative') : negative = negative' ∧ f.body = g.body := by
  cases negative <;> cases negative' <;> simp [written] at h
  · exact ⟨rfl, h⟩
  · exact ⟨rfl, h⟩

def monthsRead : ℤ :=
  componentValue f.years.digits * 12 + componentValue f.months.digits

def millisRead? : Option ℤ :=
  (Duration.scalePart? 1000 (secondsValue f.secondsDigits)).map fun millis =>
    componentValue f.days.digits * millisPerDay + componentValue f.hours.digits * 3600000 +
      componentValue f.minutes.digits * 60000 + millis

theorem yearMonthOfChars?_body : yearMonthOfChars? f.body =
    (atEnd f.exactPart).map fun _ => (some f.monthsRead).filter fits := by
  simp only [yearMonthOfChars?, f.readComponent_body, f.readComponent_months, monthsRead,
    Option.filter_some]
  cases atEnd f.exactPart <;> rfl

theorem dayTimeOfChars?_exactPart :
    dayTimeOfChars? f.exactPart = some (f.millisRead?.filter fits) := by
  simp only [dayTimeOfChars?, f.readComponent_exactPart, millisRead?]
  by_cases hnone : f.time = []
  case pos =>
    obtain ⟨hhours, hminutes, hseconds⟩ := f.time_eq_nil_iff.1 hnone
    rw [hhours, hminutes, hseconds, if_pos hnone]
    cases Duration.scalePart? 1000 (secondsValue []) <;> rfl
  case neg =>
    simp only [hnone, ↓reduceIte, f.readComponent_time, f.readComponent_minutes,
      f.readSeconds_secondsDigits]
    cases Duration.scalePart? 1000 (secondsValue f.secondsDigits) <;> rfl

theorem endsInUnit_body : EndsInUnit f.body := by
  have htime : EndsInUnit f.time :=
    (endsInUnit_inUnit (by decide)).append
      ((endsInUnit_inUnit (by decide)).append (endsInUnit_inUnit (by decide)))
  have hmarked : EndsInUnit (if f.time = [] then [] else 'T' :: f.time) := by
    split
    case isTrue => exact endsInUnit_nil
    case isFalse hne =>
      obtain ⟨c, hc, hlast⟩ := htime.getLast?_append hne
      intro d hd
      rw [← List.singleton_append, hlast, Option.mem_some_iff] at hd
      exact hd ▸ hc
  exact (endsInUnit_inUnit (by decide)).append ((endsInUnit_inUnit (by decide)).append
    ((endsInUnit_inUnit (by decide)).append hmarked))

theorem getLast?_written (h : f.body ≠ []) (negative : Bool) :
    ∃ c ∈ units, (f.written negative).getLast? = some c := by
  obtain ⟨c, hc, hlast⟩ := f.endsInUnit_body.getLast?_append h
  refine ⟨c, hc, ?_⟩
  have hsplit : f.written negative = ((if negative then ['-'] else []) ++ ['P']) ++ f.body := by
    simp [written]
  rw [hsplit, hlast]

theorem trim_written (h : f.body ≠ []) (negative : Bool) :
    Text.trim (String.ofList (f.written negative)) = String.ofList (f.written negative) := by
  obtain ⟨last, hunit, hlast⟩ := f.getLast?_written h negative
  have hblank : ∀ c ∈ units, isBlank c = false := by
    simp [units, isBlank, Unicode.inRanges, Unicode.blankRanges]
  apply trim_ofList
  · intro c hc
    cases negative <;> cases hc <;> decide
  · intro c hc
    rw [hlast, Option.mem_some_iff] at hc
    exact hc ▸ hblank last hunit

theorem readDuration_written {text : String} (h : f.body ≠ []) {negative : Bool}
    (htrim : Text.trim text = String.ofList (f.written negative)) : readDuration text =
      orMalformed .duration (Text.trim text) (durationOfChars? (f.written negative)) := by
  obtain ⟨last, hunit, hlast⟩ := f.getLast?_written h negative
  have hmark : ¬(some last = some 'P' ∨ some last = some 'T') := by
    have hmarks : ∀ c ∈ units, ¬(some c = some 'P' ∨ some c = some 'T') := by simp [units]
    exact hmarks last hunit
  simp only [readDuration, htrim, String.toList_ofList, hlast, hmark, ↓reduceIte]

theorem durationOfChars?_yearMonth (h : f.exactPart = []) (negative : Bool) :
    durationOfChars? (f.written negative) = ((some f.monthsRead).filter fits).bind fun n =>
      Duration.ofParts? (if negative then -n else n) 0 := by
  have hread := f.yearMonthOfChars?_body
  rw [h] at hread
  cases negative <;> simp [durationOfChars?, written, hread, atEnd]

theorem durationOfChars?_dayTime (hyears : f.years.digits = []) (hmonths : f.months.digits = [])
    (h : f.exactPart ≠ []) (negative : Bool) :
    durationOfChars? (f.written negative) = (f.millisRead?.filter fits).bind fun n =>
      Duration.ofParts? 0 (if negative then -n else n) := by
  have hbody : f.body = f.exactPart := by simp [body, hyears, hmonths, inUnit]
  have hread := f.yearMonthOfChars?_body
  have hexact := f.dayTimeOfChars?_exactPart
  have hend : atEnd f.exactPart = none := by simp [atEnd, h]
  rw [hend, hbody] at hread
  cases negative <;> simp [durationOfChars?, written, hbody, hread, hexact]

end Fields

end Rulebook.Calendar
