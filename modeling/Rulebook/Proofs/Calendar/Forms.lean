import Rulebook.Proofs.Calendar.Layout

/-!
Texts of both forms with whole counts of any length, and what is read from them. A count that does
not fit counts as none, and seconds are read as numbers; all else is exact.
-/

namespace Rulebook.Calendar

open Number

variable {n : Count} {negative : Bool} {text : String} {s : ℕ}

namespace Count

def seconds (n : Count) : Option Digits :=
  if h : n.digits = [] then none else some ⟨n.digits, [], h, by simpa using n.isDigit⟩

theorem writtenSeconds_seconds (n : Count) : writtenSeconds n.seconds = n.digits := by
  rw [seconds]
  split
  case isTrue h => rw [h, writtenSeconds]
  case isFalse => simp [writtenSeconds, Digits.written]

theorem scaledSeconds?_seconds (n : Count) : scaledSeconds? n.seconds =
    if (millisRead n.value : ℤ) ≤ maxPart then some (millisRead n.value : ℤ) else none := by
  rw [seconds]
  split
  case isTrue h =>
    have hzero : n.value = 0 := by rw [value, h]; rfl
    rw [hzero, scaledSeconds?_none]
    decide +kernel
  case isFalse h =>
    rw [scaledSeconds?_some, ← scalePart?_whole, Digits.number, ofDigits, List.append_nil]
    rfl

end Count

-- A duration with whole counts, as its text tells it.
inductive Form
  | yearMonth (years months : Count)
  | dayTime (days hours minutes seconds : Count)

namespace Form

variable (form : Form)

def counts : Form → List Count
  | yearMonth years months => [years, months]
  | dayTime days hours minutes seconds => [days, hours, minutes, seconds]

def fields : Form → Fields
  | yearMonth years months => ⟨years, months, .ofNat 0, .ofNat 0, .ofNat 0, none⟩
  | dayTime days hours minutes seconds =>
    ⟨.ofNat 0, .ofNat 0, days, hours, minutes, seconds.seconds⟩

-- The months, or the milliseconds.
def exact : Form → ℕ
  | yearMonth years months => years.value * 12 + months.value
  | dayTime days hours minutes seconds =>
    days.value * 86400000 + hours.value * 3600000 + minutes.value * 60000 + seconds.value * 1000

def read : Form → ℕ
  | yearMonth years months => years.kept * 12 + months.kept
  | dayTime days hours minutes seconds =>
    days.kept * 86400000 + hours.kept * 3600000 + minutes.kept * 60000 + millisRead seconds.value

-- The duration of so many months, or of so many milliseconds, if there is one.
def duration? (negative : Bool) (n : ℕ) : Option Duration :=
  if (n : ℤ) ≤ maxPart then
    some (match form with
      | yearMonth .. => ⟨signed negative n, 0⟩
      | dayTime .. => ⟨0, signed negative n⟩)
  else none

theorem body_ne_nil (h : ∃ n ∈ form.counts, n.digits ≠ []) : form.fields.body ≠ [] := by
  cases form <;> intro hbody <;>
    simp_all [fields, counts, Fields.body, Fields.exactPart_eq_nil_iff, Fields.time_eq_nil_iff,
      Fields.secondsDigits, Count.writtenSeconds_seconds, inUnit_eq_nil_iff]

theorem millisRead?_fields (days hours minutes seconds : Count) :
    (dayTime days hours minutes seconds).fields.millisRead?.filter fits =
      if ((dayTime days hours minutes seconds).read : ℤ) ≤ maxPart then
        some ((dayTime days hours minutes seconds).read : ℤ) else none := by
  have hscaled := seconds.scaledSeconds?_seconds
  have hread : ((dayTime days hours minutes seconds).read : ℤ) = days.kept * millisPerDay +
      hours.kept * 3600000 + minutes.kept * 60000 + millisRead seconds.value := by
    simp [read, millisPerDay]
  rw [scaledSeconds?] at hscaled
  rw [← filter_fits]
  simp only [fields, Fields.millisRead?, Fields.secondsDigits, hscaled, Count.componentValue_eq]
  by_cases hle : (millisRead seconds.value : ℤ) ≤ maxPart
  case pos => rw [if_pos hle, Option.map_some, hread]
  case neg =>
    have hlarge : ¬((dayTime days hours minutes seconds).read : ℤ) ≤ maxPart := by
      rw [hread, millisPerDay]
      omega
    rw [if_neg hle, filter_fits, if_neg hlarge]
    rfl

theorem durationOfChars?_written (h : form.fields.body ≠ []) :
    durationOfChars? (form.fields.written negative) = form.duration? negative form.read := by
  cases form with
  | yearMonth years months =>
    have hexact : (yearMonth years months).fields.exactPart = [] := by
      simp [fields, Fields.exactPart_eq_nil_iff, Fields.time_eq_nil_iff, Fields.secondsDigits,
        writtenSeconds, Count.ofNat]
    apply durationOfChars?_of_months hexact
    simp [fields, read, Fields.monthsRead, Count.componentValue_eq]
  | dayTime days hours minutes seconds =>
    have hexact : (dayTime days hours minutes seconds).fields.exactPart ≠ [] := by
      simpa [fields, Fields.body, inUnit, Count.ofNat] using h
    exact durationOfChars?_of_millis (Count.ofNat_digits_eq_nil_iff.2 rfl)
      (Count.ofNat_digits_eq_nil_iff.2 rfl) hexact (millisRead?_fields ..)

theorem duration?_eq_iff {n m : ℕ} : form.duration? negative n = form.duration? negative m ↔
    n = m ∨ maxPart < n ∧ maxPart < m := by
  have hsigned : signed negative n = signed negative m ↔ n = m := by
    cases negative <;> simp [signed]
  simp only [duration?]
  by_cases hn : (n : ℤ) ≤ maxPart <;> by_cases hm : (m : ℤ) ≤ maxPart
  · cases form <;> simp [hn, hm, hsigned, not_lt.2 hn]
  · have : n ≠ m := by omega
    simp [hn, hm, this, not_lt.2 hn]
  · have : n ≠ m := by omega
    simp [hn, hm, this, not_lt.2 hm]
  · simp [hn, hm, not_le.1 hn, not_le.1 hm]

-- The seconds are a number of milliseconds of up to 53 binary digits and zeros behind them.
def HasShortSeconds : Form → Prop
  | yearMonth .. => True
  | dayTime _ _ _ seconds => IsShort (1000 * seconds.value)

theorem read_eq_exact_iff (h : (form.exact : ℤ) ≤ maxPart) :
    form.read = form.exact ↔ form.HasShortSeconds := by
  cases form with
  | yearMonth years months =>
    simp only [exact] at h
    have hyears : years.kept = years.value := if_pos (by omega)
    have hmonths : months.kept = months.value := if_pos (by omega)
    simp [read, exact, HasShortSeconds, hyears, hmonths]
  | dayTime days hours minutes seconds =>
    simp only [exact] at h
    have hdays : days.kept = days.value := if_pos (by omega)
    have hhours : hours.kept = hours.value := if_pos (by omega)
    have hminutes : minutes.kept = minutes.value := if_pos (by omega)
    rw [HasShortSeconds, ← millisRead_eq_iff, read, exact, hdays, hhours, hminutes]
    omega

end Form

theorem orMalformed_inj {α : Type} {kind : Kind} {text : String} {a b : Option α} :
    orMalformed kind text a = orMalformed kind text b ↔ a = b := by
  cases a <;> cases b <;> simp [orMalformed]

section Reading

variable {form : Form} (hform : ∃ n ∈ form.counts, n.digits ≠ [])
  (htrim : Text.trim text = String.ofList (form.fields.written negative))
include hform htrim

theorem readDuration_eq : readDuration text =
    orMalformed .duration (Text.trim text) (form.duration? negative form.read) := by
  have hbody := form.body_ne_nil hform
  rw [form.fields.readDuration_written hbody htrim, form.durationOfChars?_written hbody]

-- A length that fits is read exactly if the seconds are short. One that does not fit is refused
-- unless too little of it is read.
theorem readDuration_form :
    readDuration text = orMalformed .duration (Text.trim text) (form.duration? negative form.read) ∧
      (readDuration text =
          orMalformed .duration (Text.trim text) (form.duration? negative form.exact) ↔
        if (form.exact : ℤ) ≤ maxPart then form.HasShortSeconds else maxPart < form.read) := by
  have hread := readDuration_eq hform htrim
  refine ⟨hread, ?_⟩
  rw [hread, orMalformed_inj, form.duration?_eq_iff]
  split
  case isTrue h =>
    rw [← form.read_eq_exact_iff h]
    simp [not_lt.2 h]
  case isFalse h =>
    have hlarge : form.read = form.exact → maxPart < form.read := fun heq => heq ▸ not_le.1 h
    simp only [not_le.1 h, and_true, or_iff_right_iff_imp]
    exact hlarge

end Reading

-- One second less, by the digits of a number.
example : readDuration "PT9007199254740993S" = .ok ⟨0, 9007199254740992000⟩ := by
  decide +kernel

-- Too many months, which are read as none.
example : readDuration "P9223372036854775808M" = .ok Duration.zero := by
  decide +kernel

theorem readDuration_form_months : (∃ n ∈ (Form.yearMonth (.ofNat 0) (.ofNat 14)).counts,
    n.digits ≠ []) ∧ Text.trim " -P14M" =
      String.ofList ((Form.yearMonth (.ofNat 0) (.ofNat 14)).fields.written true) ∧
    readDuration " -P14M" = .ok ⟨-14, 0⟩ := by
  have hform : ∃ n ∈ (Form.yearMonth (.ofNat 0) (.ofNat 14)).counts, n.digits ≠ [] :=
    ⟨.ofNat 14, by simp [Form.counts], by decide⟩
  have htrim : Text.trim " -P14M" =
      String.ofList ((Form.yearMonth (.ofNat 0) (.ofNat 14)).fields.written true) := by
    decide +kernel
  refine ⟨hform, htrim, (readDuration_form hform htrim).1.trans ?_⟩
  decide +kernel

end Rulebook.Calendar
