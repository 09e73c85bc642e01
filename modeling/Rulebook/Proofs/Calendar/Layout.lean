import Rulebook.Proofs.Calendar.Fields
import Rulebook.Proofs.Calendar.Seconds

/-!
The text of a duration is made of fields, and the fields tell both parts of the duration up to their
signs. The sign in front is one for both parts, so that parts with different signs lose theirs.
-/

namespace Rulebook.Calendar

open Number

variable {d d' : Duration} {f g : Fields} {k months millis : ℕ}

namespace Count

def ofNat (n : ℕ) : Count where
  digits := if n = 0 then [] else Nat.toDigits 10 n
  isDigit := by
    intro c hc
    split at hc
    · cases hc
    · exact isDigit_of_mem_toDigits hc

theorem ofNat_digits_eq_nil_iff {n : ℕ} : (ofNat n).digits = [] ↔ n = 0 := by
  by_cases h : n = 0
  · simp [ofNat, h]
  · simp [ofNat, h]

def value (n : Count) : ℕ :=
  digitsValue n.digits

-- A count that does not fit counts as none.
def kept (n : Count) : ℕ :=
  if (n.value : ℤ) ≤ maxPart then n.value else 0

theorem componentValue_eq (n : Count) : componentValue n.digits = n.kept := by
  have hall : n.digits.all Char.isDigit = true := List.all_eq_true.2 n.isDigit
  by_cases h : (digitsValue n.digits : ℤ) ≤ maxPart <;>
    simp [componentValue, kept, value, hall, fits_natCast, h]

theorem value_ofNat (n : ℕ) : (ofNat n).value = n := by
  by_cases h : n = 0
  · rw [value, ofNat_digits_eq_nil_iff.2 h, h]
    rfl
  · simp [value, ofNat, h, digitsValue_toDigits]

theorem componentValue_ofNat {n : ℕ} (h : (n : ℤ) ≤ maxPart) :
    componentValue (ofNat n).digits = n := by
  rw [componentValue_eq, kept, value_ofNat, if_pos h]

end Count

section Parts

variable {negative : Bool} {n : ℕ}

theorem ofParts?_signed (h : (n : ℤ) ≤ maxPart) (negative : Bool) :
    Duration.ofParts? (signed negative n) 0 = some ⟨signed negative n, 0⟩ ∧
      Duration.ofParts? 0 (signed negative n) = some ⟨0, signed negative n⟩ := by
  have hmin : minPart ≤ -maxPart := by decide
  have hzero : fits 0 = true := by decide
  have hfits : fits (signed negative n) = true := by
    cases negative <;> simp [fits, signed] <;> omega
  simp [Duration.ofParts?, hfits, hzero]

theorem durationOfChars?_of_months (h : f.exactPart = []) (hread : f.monthsRead = n) :
    durationOfChars? (f.written negative) =
      if (n : ℤ) ≤ maxPart then some ⟨signed negative n, 0⟩ else none := by
  rw [f.durationOfChars?_yearMonth h, hread, filter_fits]
  split
  case isTrue hle => exact (ofParts?_signed hle negative).1
  case isFalse => rfl

theorem durationOfChars?_of_millis (hyears : f.years.digits = []) (hmonths : f.months.digits = [])
    (h : f.exactPart ≠ [])
    (hread : f.millisRead?.filter fits = if (n : ℤ) ≤ maxPart then some (n : ℤ) else none) :
    durationOfChars? (f.written negative) =
      if (n : ℤ) ≤ maxPart then some ⟨0, signed negative n⟩ else none := by
  rw [f.durationOfChars?_dayTime hyears hmonths h, hread]
  split
  case isTrue hle => exact (ofParts?_signed hle negative).2
  case isFalse => rfl

end Parts

theorem toList_component (n : ℕ) (text : String) (unit : Char) (h : text.toList = [unit]) :
    (component n text).toList = inUnit unit (Count.ofNat n).digits := by
  by_cases hzero : n = 0
  case pos => simp [component, inUnit, Count.ofNat, hzero]
  case neg => simp [component, inUnit, Count.ofNat, hzero, h, toString, Nat.repr]

-- What the seconds in a text stand for, in milliseconds.
def scaledSeconds? (seconds : Option Digits) : Option ℤ :=
  Duration.scalePart? 1000 (secondsValue (writtenSeconds seconds))

theorem scaledSeconds?_some (ds : Digits) :
    scaledSeconds? (some ds) = Duration.scalePart? 1000 ds.number := by
  rw [scaledSeconds?, secondsValue, writtenSeconds, ds.read?_written, Option.getD_some]

theorem scaledSeconds?_none : scaledSeconds? none = some 0 := by
  decide +kernel

theorem exists_digits_of_whole (hk : k < 60000) (hzero : k ≠ 0) (hwhole : k % 1000 = 0) :
    ∃ ds : Digits, (secondsText k).toList = ds.written ++ ['S'] ∧
      Duration.scalePart? 1000 ds.number = some (k : ℤ) := by
  have hdigits : ∀ c ∈ Nat.toDigits 10 (k / 1000) ++ [], c.isDigit = true := by
    rw [List.append_nil]
    exact fun c => isDigit_of_mem_toDigits
  refine ⟨⟨Nat.toDigits 10 (k / 1000), [], Nat.toDigits_ne_nil, hdigits⟩, ?_, ?_⟩
  · simp [secondsText, hzero, hwhole, Digits.written, toString, Nat.repr]
  · have hnumber : ofDigits (Nat.toDigits 10 (k / 1000)) [] = ofDecimal false ⟨k / 1000, 0⟩ := by
      simp [ofDigits, digitsValue_toDigits]
    have hread : millisRead (k / 1000) = k := by
      have hthousand : 1000 * (k / 1000) = k := Nat.mul_div_cancel' (Nat.dvd_of_mod_eq_zero hwhole)
      have hshort : IsShort (1000 * (k / 1000)) := by
        apply isShort_of_le
        simp only [leadingBit]
        omega
      rw [millisRead_eq_iff.2 hshort, hthousand]
    have hmax : (60000 : ℤ) ≤ maxPart := by decide
    rw [Digits.number, hnumber, scalePart?_whole, hread, if_pos (by omega)]

theorem exists_digits_of_fraction (hk : k < 60000) (hzero : k ≠ 0) (hwhole : k % 1000 ≠ 0) :
    ∃ ds : Digits, (secondsText k).toList = ds.written ++ ['S'] ∧
      Duration.scalePart? 1000 ds.number = some (k : ℤ) := by
  obtain ⟨m, e, hparts, -⟩ := exists_parts_thousandths hk
  have hfinite : isFinite (Number.ofInt k / 1000) = true := by rw [isFinite, hparts]
  obtain ⟨ds, hwritten, hnumber⟩ := exists_digits_of_isFinite hfinite (parts_eq_finite hparts).1
  refine ⟨ds, ?_, ?_⟩
  · simp [secondsText, hzero, hwhole, hwritten]
  · rw [hnumber, scalePart?_thousandths hk]

theorem exists_seconds (hk : k < 60000) : ∃ seconds, (secondsText k).toList =
    inUnit 'S' (writtenSeconds seconds) ∧ (seconds = none ↔ k = 0) ∧
      scaledSeconds? seconds = some (k : ℤ) := by
  by_cases hzero : k = 0
  case pos =>
    subst hzero
    exact ⟨none, rfl, by simp, scaledSeconds?_none⟩
  case neg =>
    obtain ⟨ds, htext, hscaled⟩ : ∃ ds : Digits, (secondsText k).toList = ds.written ++ ['S'] ∧
        Duration.scalePart? 1000 ds.number = some (k : ℤ) := by
      by_cases hwhole : k % 1000 = 0
      · exact exists_digits_of_whole hk hzero hwhole
      · exact exists_digits_of_fraction hk hzero hwhole
    obtain ⟨c, cs, hcons, -⟩ := ds.exists_written_eq_cons
    refine ⟨some ds, ?_, by simp [hzero], by rw [scaledSeconds?_some, hscaled]⟩
    simp [htext, writtenSeconds, inUnit, hcons]

-- The fields stand for the two parts, without their signs.
structure Fields.Describes (f : Fields) (months millis : ℕ) : Prop where
  years : f.years = .ofNat (months / 12)
  months : f.months = .ofNat (months % 12)
  days : f.days = .ofNat (millis / 86400000)
  hours : f.hours = .ofNat (millis % 86400000 / 3600000)
  minutes : f.minutes = .ofNat (millis % 86400000 % 3600000 / 60000)
  seconds : scaledSeconds? f.seconds = some ((millis % 86400000 % 60000 : ℕ) : ℤ)

def Duration.isBackwards (d : Duration) : Bool :=
  d.months < 0 || d.millis < 0

theorem Duration.isBackwards_iff : d.isBackwards = true ↔ d.months < 0 ∨ d.millis < 0 := by
  simp [isBackwards]

theorem toList_sign (d : Duration) : (if d.months < 0 ∨ d.millis < 0 then "-P" else "P").toList =
    (if d.isBackwards then ['-'] else []) ++ ['P'] := by
  by_cases h : d.months < 0 ∨ d.millis < 0
  · rw [if_pos h, if_pos (Duration.isBackwards_iff.2 h)]
    rfl
  · rw [if_neg h, if_neg (mt Duration.isBackwards_iff.1 h)]
    rfl

theorem exists_fields (hd : d ≠ Duration.zero) : ∃ f : Fields,
    d.text = String.ofList (f.written d.isBackwards) ∧
      f.Describes d.months.natAbs d.millis.natAbs ∧
        (f.seconds = none ↔ d.millis.natAbs % 86400000 % 60000 = 0) := by
  generalize hrest : d.millis.natAbs % 86400000 = rest
  obtain ⟨seconds, htext, hnone, hscaled⟩ :=
    exists_seconds (Nat.mod_lt rest (by decide : 0 < 60000))
  refine ⟨⟨.ofNat (d.months.natAbs / 12), .ofNat (d.months.natAbs % 12),
    .ofNat (d.millis.natAbs / 86400000), .ofNat (rest / 3600000), .ofNat (rest % 3600000 / 60000),
    seconds⟩, ?_, ⟨rfl, rfl, rfl, hrest ▸ rfl, hrest ▸ rfl, hrest ▸ hscaled⟩, hnone⟩
  have htime : inUnit 'H' (Count.ofNat (rest / 3600000)).digits ++
      (inUnit 'M' (Count.ofNat (rest % 3600000 / 60000)).digits ++
        inUnit 'S' (writtenSeconds seconds)) = [] ↔ rest = 0 := by
    simp only [List.append_eq_nil_iff, inUnit_eq_nil_iff, Count.ofNat_digits_eq_nil_iff,
      writtenSeconds_eq_nil_iff, hnone]
    omega
  rw [← String.toList_inj, String.toList_ofList]
  simp only [Duration.text, hd, hrest, ↓reduceIte, String.toList_append, toList_sign,
    toList_component _ "Y" 'Y' (by simp), toList_component _ "M" 'M' (by simp),
    toList_component _ "D" 'D' (by simp)]
  simp only [Fields.written, Fields.body, Fields.exactPart, Fields.time, Fields.secondsDigits,
    htime]
  by_cases hzero : rest = 0
  case pos => simp [hzero]
  case neg =>
    simp [hzero, htext, toList_component _ "H" 'H' (by simp),
      toList_component _ "M" 'M' (by simp)]

theorem Fields.Describes.eq {months' millis' : ℕ} (hf : f.Describes months millis)
    (hg : g.Describes months' millis') (h : f.SameDigits g) :
    months = months' ∧ millis = millis' := by
  have hcount {n n' : ℕ} (h : (Count.ofNat n).digits = (Count.ofNat n').digits) : n = n' := by
    rw [← Count.value_ofNat n, Count.value, h, ← Count.value, Count.value_ofNat]
  have hyears := hcount (hf.years ▸ hg.years ▸ h.years)
  have hmonths := hcount (hf.months ▸ hg.months ▸ h.months)
  have hdays := hcount (hf.days ▸ hg.days ▸ h.days)
  have hhours := hcount (hf.hours ▸ hg.hours ▸ h.hours)
  have hminutes := hcount (hf.minutes ▸ hg.minutes ▸ h.minutes)
  have hseconds : millis % 86400000 % 60000 = millis' % 86400000 % 60000 := by
    have hscaled : scaledSeconds? f.seconds = scaledSeconds? g.seconds := by
      rw [scaledSeconds?, scaledSeconds?]
      exact congrArg (fun cs => Duration.scalePart? 1000 (secondsValue cs)) h.seconds
    rw [hf.seconds, hg.seconds] at hscaled
    exact_mod_cast Option.some.inj hscaled
  omega

theorem describes_zero : ∃ f : Fields, Duration.zero.text = String.ofList (f.written false) ∧
    f.Describes 0 0 := by
  have hdigits : ∀ c ∈ ['0'] ++ [], c.isDigit = true := by simp
  have hscaled : Duration.scalePart? 1000 (ofDigits ['0'] []) = some 0 := by decide +kernel
  refine ⟨⟨.ofNat 0, .ofNat 0, .ofNat 0, .ofNat 0, .ofNat 0,
    some ⟨['0'], [], by simp, hdigits⟩⟩, rfl, ⟨rfl, rfl, rfl, rfl, rfl, ?_⟩⟩
  exact (scaledSeconds?_some _).trans hscaled

theorem exists_describes (d : Duration) : ∃ f : Fields,
    d.text = String.ofList (f.written d.isBackwards) ∧
      f.Describes d.months.natAbs d.millis.natAbs := by
  by_cases hd : d = Duration.zero
  case pos =>
    subst hd
    exact describes_zero
  case neg =>
    obtain ⟨f, htext, hdescribes, -⟩ := exists_fields hd
    exact ⟨f, htext, hdescribes⟩

theorem text_eq_of_natAbs_eq (hmonths : d.months.natAbs = d'.months.natAbs)
    (hmillis : d.millis.natAbs = d'.millis.natAbs) (hsign : d.isBackwards = d'.isBackwards) :
    d.text = d'.text := by
  have hzero : d = Duration.zero ↔ d' = Duration.zero := by
    obtain ⟨months, millis⟩ := d
    obtain ⟨months', millis'⟩ := d'
    simp only [Duration.zero, Duration.mk.injEq] at *
    omega
  have hnegative : (d.months < 0 ∨ d.millis < 0) ↔ (d'.months < 0 ∨ d'.millis < 0) := by
    rw [← Duration.isBackwards_iff, hsign, Duration.isBackwards_iff]
  simp only [Duration.text, hzero, hnegative, hmonths, hmillis]

-- A text stands for one duration, unless it has both parts and a minus: then the minus is that of
-- the months, of the exact part or of both.
theorem durationText_eq_iff : d.text = d'.text ↔ d = d' ∨
    d.isBackwards ∧ d'.isBackwards ∧ d.months ≠ 0 ∧ d.millis ≠ 0 ∧
      d.months.natAbs = d'.months.natAbs ∧ d.millis.natAbs = d'.millis.natAbs := by
  constructor
  · intro h
    obtain ⟨f, hf, hfd⟩ := exists_describes d
    obtain ⟨g, hg, hgd⟩ := exists_describes d'
    rw [hf, hg, String.ofList_inj] at h
    obtain ⟨hsign, hbody⟩ := Fields.written_inj h
    obtain ⟨hmonths, hmillis⟩ := hfd.eq hgd (Fields.sameDigits_of_body_eq hbody)
    have hsign : (d.months < 0 ∨ d.millis < 0) ↔ (d'.months < 0 ∨ d'.millis < 0) := by
      rw [← Duration.isBackwards_iff, hsign, Duration.isBackwards_iff]
    obtain ⟨months, millis⟩ := d
    obtain ⟨months', millis'⟩ := d'
    simp only [Duration.isBackwards_iff, Duration.mk.injEq] at *
    omega
  · rintro (rfl | ⟨hd, hd', -, -, hmonths, hmillis⟩)
    · rfl
    · exact text_eq_of_natAbs_eq hmonths hmillis (hd.trans hd'.symm)

example : Duration.text ⟨1, -1000⟩ = Duration.text ⟨-1, 1000⟩ := by
  decide +kernel

end Rulebook.Calendar
