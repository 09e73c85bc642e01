import Rulebook.Proofs.Calendar.Layout

/-!
Durations from text have one part, and it is not the least integer. Each duration of this kind is
read from its own text, so that a text read and written again is read as the same duration.
-/

namespace Rulebook.Calendar

open Number

variable {d : Duration} {f : Fields} {n : ℤ} {unit : Char} {cs : List Char} {text : String}

-- One of the parts is zero, and the negative of the other fits as well.
structure Duration.IsPlain (d : Duration) : Prop where
  onePart : d.months = 0 ∨ d.millis = 0
  months : d.months.natAbs ≤ maxPart
  millis : d.millis.natAbs ≤ maxPart

section Accepted

theorem le_maxPart_of_fits (h : fits n = true) : n ≤ maxPart := by
  simp only [fits, Bool.and_eq_true, decide_eq_true_eq] at h
  exact h.2

theorem componentValue_nonneg (digits : List Char) : 0 ≤ componentValue digits := by
  rw [componentValue]
  split
  · exact Int.natCast_nonneg _
  · exact le_rfl

theorem isDecimalDigit_of_mem_readComponent {c : Char} (h : c ∈ (readComponent unit cs).1) :
    Unicode.isDecimalDigit c = true := by
  rw [readComponent] at h
  split at h
  case h_1 =>
    split at h
    · exact List.mem_takeWhile_imp h
    · cases h
  case h_2 => cases h

theorem minus_not_mem_readSeconds (cs : List Char) : '-' ∉ (readSeconds cs).1 := by
  have hminus : Unicode.isDecimalDigit '-' = false := by decide
  have hcomponent (cs : List Char) : '-' ∉ (readComponent 'S' cs).1 := by
    intro h
    rw [isDecimalDigit_of_mem_readComponent h] at hminus
    cases hminus
  have hwhole : '-' ∉ cs.takeWhile Unicode.isDecimalDigit := by
    intro h
    rw [List.mem_takeWhile_imp h] at hminus
    cases hminus
  simp only [readSeconds]
  split
  case h_1 rest _ =>
    split
    · simp
    · simp [hwhole, hcomponent rest]
  case h_2 => exact hcomponent cs

theorem scaledSeconds_nonneg
    (h : Duration.scalePart? 1000 (secondsValue (readSeconds cs).1) = some n) : 0 ≤ n := by
  refine scalePart?_nonneg ?_ h
  rw [secondsValue]
  cases hread : read? (readSeconds cs).1 with
  | none => decide
  | some x => exact isNegative_read? (minus_not_mem_readSeconds cs) hread

theorem yearMonthOfChars?_bounds (h : yearMonthOfChars? cs = some (some n)) :
    0 ≤ n ∧ n ≤ maxPart := by
  simp only [yearMonthOfChars?, Option.bind_eq_bind, Option.bind_eq_some_iff, Option.pure_def,
    Option.some.injEq, Option.ite_none_right_eq_some] at h
  obtain ⟨-, -, hfits, rfl⟩ := h
  have hyears := componentValue_nonneg (readComponent 'Y' cs).1
  have hmonths := componentValue_nonneg (readComponent 'M' (readComponent 'Y' cs).2).1
  have hle := le_maxPart_of_fits hfits
  omega

theorem exists_of_dayTimeOfChars? (h : dayTimeOfChars? cs = some (some n)) :
    ∃ days hours minutes cs' millis,
      Duration.scalePart? 1000 (secondsValue (readSeconds cs').1) = some millis ∧ fits n ∧
        n = componentValue days * millisPerDay + componentValue hours * 3600000 +
          componentValue minutes * 60000 + millis := by
  by_cases htime : ∃ rest, (readComponent 'D' cs).2 = 'T' :: rest
  case pos =>
    obtain ⟨rest, hrest⟩ := htime
    simp only [dayTimeOfChars?, hrest, Option.bind_eq_bind, Option.bind_eq_some_iff,
      Option.pure_def, Option.some.injEq, Option.ite_none_right_eq_some] at h
    obtain ⟨-, -, millis, hseconds, hfits, rfl⟩ := h
    exact ⟨_, _, _, _, millis, hseconds, hfits, rfl⟩
  case neg =>
    have hread : (readSeconds []).1 = [] := rfl
    simp only [dayTimeOfChars?] at h
    split at h
    case h_1 rest hrest => exact absurd ⟨rest, hrest⟩ htime
    case h_2 =>
      simp only [Option.bind_eq_bind, Option.bind_eq_some_iff, Option.pure_def, Option.some.injEq,
        Option.ite_none_right_eq_some] at h
      obtain ⟨-, -, millis, hseconds, hfits, rfl⟩ := h
      exact ⟨_, _, _, [], millis, hread ▸ hseconds, hfits, rfl⟩

theorem dayTimeOfChars?_bounds (h : dayTimeOfChars? cs = some (some n)) :
    0 ≤ n ∧ n ≤ maxPart := by
  obtain ⟨days, hours, minutes, cs', millis, hseconds, hfits, rfl⟩ := exists_of_dayTimeOfChars? h
  have hdays := componentValue_nonneg days
  have hhours := componentValue_nonneg hours
  have hminutes := componentValue_nonneg minutes
  have hmillis := scaledSeconds_nonneg hseconds
  have hle := le_maxPart_of_fits hfits
  simp only [millisPerDay] at hle ⊢
  omega

theorem isPlain_of_ofParts? {months millis : ℤ} (h : Duration.ofParts? months millis = some d)
    (hone : months = 0 ∨ millis = 0) (hmonths : months.natAbs ≤ maxPart)
    (hmillis : millis.natAbs ≤ maxPart) : d.IsPlain := by
  rw [Duration.ofParts?] at h
  split at h <;> cases h
  exact ⟨hone, hmonths, hmillis⟩

theorem isPlain_of_durationOfChars? (h : durationOfChars? cs = some d) : d.IsPlain := by
  have hsigned {n : ℤ} (negative : Bool) (hn : 0 ≤ n ∧ n ≤ maxPart) :
      (if negative then -n else n).natAbs ≤ maxPart := by
    split <;> omega
  have hzero : ((0 : ℤ).natAbs : ℤ) ≤ maxPart := by decide
  simp only [durationOfChars?] at h
  split at h
  case h_2 => cases h
  case h_1 rest hrest =>
    split at h
    case h_1 months hmonths =>
      obtain ⟨n, rfl, h⟩ := Option.bind_eq_some_iff.1 h
      exact isPlain_of_ofParts? h (.inr rfl) (hsigned _ (yearMonthOfChars?_bounds hmonths)) hzero
    case h_2 millis _ hmillis =>
      obtain ⟨n, rfl, h⟩ := Option.bind_eq_some_iff.1 h
      exact isPlain_of_ofParts? h (.inl rfl) hzero (hsigned _ (dayTimeOfChars?_bounds hmillis))
    case h_3 => cases h

theorem isPlain_of_readDuration (h : readDuration text = .ok d) : d.IsPlain := by
  simp only [readDuration] at h
  split at h
  case isTrue => cases h
  case isFalse =>
    cases hread : durationOfChars? (Text.trim text).toList with
    | none => simp [hread, orMalformed] at h
    | some d' =>
      simp only [hread, orMalformed, Except.ok.injEq] at h
      exact h ▸ isPlain_of_durationOfChars? hread

end Accepted

section Written

variable {months millis : ℕ} (h : f.Describes months millis)
include h

theorem monthsRead_eq (hle : (months : ℤ) ≤ maxPart) : f.monthsRead = months := by
  have hyears : ((months / 12 : ℕ) : ℤ) ≤ maxPart := by omega
  have hmonths : ((months % 12 : ℕ) : ℤ) ≤ maxPart := by omega
  rw [Fields.monthsRead, h.years, h.months, Count.componentValue_ofNat hyears,
    Count.componentValue_ofNat hmonths]
  omega

theorem millisRead?_eq (hle : (millis : ℤ) ≤ maxPart) : f.millisRead? = some (millis : ℤ) := by
  have hdays : ((millis / 86400000 : ℕ) : ℤ) ≤ maxPart := by omega
  have hhours : ((millis % 86400000 / 3600000 : ℕ) : ℤ) ≤ maxPart := by omega
  have hminutes : ((millis % 86400000 % 3600000 / 60000 : ℕ) : ℤ) ≤ maxPart := by omega
  have hseconds : Duration.scalePart? 1000 (secondsValue f.secondsDigits) =
      some ((millis % 86400000 % 60000 : ℕ) : ℤ) := h.seconds
  rw [Fields.millisRead?, hseconds, h.days, h.hours, h.minutes, Count.componentValue_ofNat hdays,
    Count.componentValue_ofNat hhours, Count.componentValue_ofNat hminutes, Option.map_some,
    millisPerDay]
  congr 1
  omega

theorem exactPart_eq_nil_iff
    (hseconds : f.seconds = none ↔ millis % 86400000 % 60000 = 0) :
    f.exactPart = [] ↔ millis = 0 := by
  rw [Fields.exactPart_eq_nil_iff, Fields.time_eq_nil_iff, Fields.secondsDigits,
    writtenSeconds_eq_nil_iff, hseconds, h.days, h.hours, h.minutes,
    Count.ofNat_digits_eq_nil_iff, Count.ofNat_digits_eq_nil_iff, Count.ofNat_digits_eq_nil_iff]
  omega

theorem years_and_months_eq_nil_iff :
    f.years.digits = [] ∧ f.months.digits = [] ↔ months = 0 := by
  rw [h.years, h.months, Count.ofNat_digits_eq_nil_iff, Count.ofNat_digits_eq_nil_iff]
  omega

end Written

theorem signed_natAbs {part : ℤ} (h : d.isBackwards = true ↔ part < 0) :
    signed d.isBackwards part.natAbs = part := by
  rw [signed]
  split
  case isTrue hsign =>
    have := h.1 hsign
    omega
  case isFalse hsign =>
    have := mt h.2 hsign
    omega

theorem durationOfChars?_written (h : d.IsPlain)
    (hdescribes : f.Describes d.months.natAbs d.millis.natAbs)
    (hseconds : f.seconds = none ↔ d.millis.natAbs % 86400000 % 60000 = 0) :
    durationOfChars? (f.written d.isBackwards) = some d := by
  have hexact := exactPart_eq_nil_iff hdescribes hseconds
  obtain ⟨months, millis⟩ := d
  by_cases hzero : millis = 0
  case pos =>
    subst hzero
    rw [durationOfChars?_of_months (hexact.2 rfl) (monthsRead_eq hdescribes h.months),
      if_pos h.months, signed_natAbs (by simp [Duration.isBackwards_iff])]
  case neg =>
    obtain rfl : months = 0 := h.onePart.resolve_right hzero
    obtain ⟨hyears, hmonths⟩ := (years_and_months_eq_nil_iff hdescribes).2 rfl
    have hread := millisRead?_eq hdescribes h.millis
    rw [durationOfChars?_of_millis hyears hmonths (mt hexact.1 (Int.natAbs_ne_zero.2 hzero))
      (by rw [hread, filter_fits]), if_pos h.millis,
      signed_natAbs (by simp [Duration.isBackwards_iff])]

theorem body_ne_nil (hd : d ≠ Duration.zero)
    (hdescribes : f.Describes d.months.natAbs d.millis.natAbs)
    (hseconds : f.seconds = none ↔ d.millis.natAbs % 86400000 % 60000 = 0) : f.body ≠ [] := by
  intro hbody
  simp only [Fields.body, List.append_eq_nil_iff, inUnit_eq_nil_iff] at hbody
  have hmonths := (years_and_months_eq_nil_iff hdescribes).1 ⟨hbody.1, hbody.2.1⟩
  have hmillis := (exactPart_eq_nil_iff hdescribes hseconds).1 hbody.2.2
  obtain ⟨months, millis⟩ := d
  simp_all [Duration.zero]

theorem readDuration_text (h : d.IsPlain) : readDuration d.text = .ok d := by
  by_cases hd : d = Duration.zero
  case pos =>
    subst hd
    decide +kernel
  case neg =>
    obtain ⟨f, htext, hdescribes, hseconds⟩ := exists_fields hd
    have hbody := body_ne_nil hd hdescribes hseconds
    have htrim := f.trim_written hbody d.isBackwards
    rw [← htext] at htrim
    rw [f.readDuration_written hbody (htrim.trans htext),
      durationOfChars?_written h hdescribes hseconds]
    rfl

theorem exists_readDuration_iff : (∃ text, readDuration text = .ok d) ↔ d.IsPlain := by
  constructor
  · rintro ⟨text, h⟩
    exact isPlain_of_readDuration h
  · intro h
    exact ⟨d.text, readDuration_text h⟩

-- A text that denotes a duration is read again from the duration's own text.
theorem readDuration_text_of_readDuration (h : readDuration text = .ok d) :
    readDuration d.text = .ok d :=
  readDuration_text (isPlain_of_readDuration h)

theorem readDuration_text_of_readDuration_seconds :
    readDuration " -P1DT00.0015S" = .ok ⟨0, -86400002⟩ ∧
      readDuration (Duration.text ⟨0, -86400002⟩) = .ok ⟨0, -86400002⟩ := by
  have h : readDuration " -P1DT00.0015S" = .ok ⟨0, -86400002⟩ := by decide +kernel
  exact ⟨h, readDuration_text_of_readDuration h⟩

end Rulebook.Calendar
