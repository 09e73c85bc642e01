import Rulebook.Proofs.Calendar.Days
import Rulebook.Proofs.Calendar.Fields
import Rulebook.Value.Text

/-!
Dates, times and both together come back from their texts. Each field is written with digits that
its reader takes whole: the mark behind them is no digit, or the width of the field is reached.
-/

namespace Rulebook.Calendar

open Number (Decimal.zeros digitsValue)
open Unicode (isBlank)

variable {width n : ℕ} {c : Char} {rest : List Char}

section Characters

-- What dates and times are written with: no blanks, and not the `T` between the two.
def IsWritten (c : Char) : Prop :=
  c.isDigit = true ∨ c ∈ ['+', '-', ':', '.']

theorem isBlank_of_isDigit (h : c.isDigit = true) : isBlank c = false := by
  simp only [Char.isDigit, Bool.and_eq_true, decide_eq_true_eq, UInt32.le_iff_toNat_le] at h
  have hlow : 48 ≤ c.toNat := h.1
  have hhigh : c.toNat ≤ 57 := h.2
  rw [Bool.eq_false_iff, isBlank, Ne, Unicode.inRanges_iff]
  simp only [Unicode.blankRanges, List.mem_cons, List.not_mem_nil, or_false, exists_eq_or_imp,
    exists_eq_left]
  omega

theorem IsWritten.isBlank (h : IsWritten c) : isBlank c = false := by
  obtain hdigit | hmark := h
  · exact isBlank_of_isDigit hdigit
  · simp only [List.mem_cons, List.not_mem_nil, or_false] at hmark
    obtain rfl | rfl | rfl | rfl := hmark <;> decide

theorem IsWritten.ne_separator (h : IsWritten c) : c ≠ 'T' := by
  rintro rfl
  revert h
  simp [IsWritten]

end Characters

section Numbers

theorem toList_padded : (padded width n).toList =
    Decimal.zeros (width - (Nat.toDigits 10 n).length) ++ Nat.toDigits 10 n :=
  String.toList_ofList

theorem isDigit_of_mem_padded (h : c ∈ (padded width n).toList) : c.isDigit = true := by
  rw [toList_padded, List.mem_append] at h
  obtain hzero | hdigit := h
  · exact Number.isDigit_of_mem_zeros hzero
  · exact Number.isDigit_of_mem_toDigits hdigit

theorem digitsValue_padded : digitsValue (padded width n).toList = n := by
  rw [toList_padded, Number.digitsValue_zeros_append]

theorem padded_ne_nil : (padded width n).toList ≠ [] := by
  rw [toList_padded]
  exact List.append_ne_nil_of_right_ne_nil _ (List.ne_nil_of_length_pos Nat.length_toDigits_pos)

theorem isEmpty_padded : (padded width n).toList.isEmpty = false :=
  List.isEmpty_eq_false_iff.2 padded_ne_nil

theorem takeWhile_isDigit_padded :
    (padded width n).toList.takeWhile Char.isDigit = (padded width n).toList :=
  List.takeWhile_eq_self_iff.2 fun _ => isDigit_of_mem_padded

-- Where no digit follows, the digits of a number can be taken without knowing how many they are.
theorem takeWhile_isDigit_padded_append (hrest : ∀ c ∈ rest.head?, c.isDigit = false) :
    ((padded width n).toList ++ rest).takeWhile Char.isDigit = (padded width n).toList := by
  rw [List.takeWhile_append_of_pos fun _ => isDigit_of_mem_padded]
  cases rest with
  | nil => rw [List.takeWhile_nil, List.append_nil]
  | cons c rest => rw [List.takeWhile_cons_of_neg (by simp [hrest c rfl]), List.append_nil]

theorem length_padded (hwidth : 0 < width) (h : n < 10 ^ width) :
    (padded width n).toList.length = width := by
  have := (Nat.length_toDigits_le_iff (by decide) hwidth).2 h
  rw [toList_padded, Decimal.zeros, List.length_append, List.length_replicate]
  omega

theorem dropWhile_isBlank_padded :
    ((padded width n).toList ++ rest).dropWhile isBlank = (padded width n).toList ++ rest := by
  apply dropWhile_of_head?
  intro c hc
  rw [List.head?_append_of_ne_nil _ padded_ne_nil] at hc
  exact isBlank_of_isDigit (isDigit_of_mem_padded (List.mem_of_mem_head? hc))

theorem readNumber_padded (hwidth : 0 < width) (h : n < 10 ^ width) :
    readNumber width ((padded width n).toList ++ rest) = some (n, rest) := by
  have htake : ((padded width n).toList ++ rest).take width = (padded width n).toList :=
    List.take_left' (length_padded hwidth h)
  simp only [readNumber]
  rw [dropWhile_isBlank_padded, htake, takeWhile_isDigit_padded, isEmpty_padded,
    digitsValue_padded, List.drop_left]
  rfl

theorem readNumber_two (h : n < 100) :
    readNumber 2 ((padded 2 n).toList ++ rest) = some (n, rest) :=
  readNumber_padded (by decide) h

end Numbers

section Years

theorem readYear_signed {mark : Char} {sign : ℤ}
    (hmark : mark = '-' ∧ sign = -1 ∨ mark = '+' ∧ sign = 1)
    (hrest : ∀ c ∈ rest.head?, c.isDigit = false) :
    readYear (mark :: ((padded width n).toList ++ rest)) = some (sign * n, rest) := by
  have hminus : isBlank '-' = false := by decide
  have hplus : isBlank '+' = false := by decide
  obtain ⟨rfl, rfl⟩ | ⟨rfl, rfl⟩ := hmark
  · simp [readYear, hminus, takeWhile_isDigit_padded_append hrest, isEmpty_padded,
      digitsValue_padded]
  · simp [readYear, hplus, takeWhile_isDigit_padded_append hrest, isEmpty_padded,
      digitsValue_padded]

theorem readYear_padded (h : n < 10000) :
    readYear ((padded 4 n).toList ++ rest) = some ((n : ℤ), rest) := by
  have hnumber : readNumber 4 ((padded 4 n).toList ++ rest) = some (n, rest) :=
    readNumber_padded (by decide) h
  have hdigit : ∀ c ∈ (padded 4 n).toList, c.isDigit = true := fun _ => isDigit_of_mem_padded
  simp only [readYear]
  rw [dropWhile_isBlank_padded]
  cases hpadded : (padded 4 n).toList with
  | nil => exact absurd hpadded padded_ne_nil
  | cons c cs =>
    rw [hpadded] at hnumber hdigit
    have hc : c.isDigit = true := hdigit c List.mem_cons_self
    rw [List.cons_append] at hnumber ⊢
    split
    case h_1 heq =>
      cases heq
      cases hc
    case h_2 heq =>
      cases heq
      cases hc
    case h_3 => rw [hnumber, Option.map_some]

theorem readYear_yearText {year : ℤ} (hrest : ∀ c ∈ rest.head?, c.isDigit = false) :
    readYear ((yearText year).toList ++ rest) = some (year, rest) := by
  have hminus : "-".toList = ['-'] := by simp
  have hplus : "+".toList = ['+'] := by simp
  have habs : (year.natAbs : ℤ) = |year| := Int.natCast_natAbs year
  simp only [yearText]
  split_ifs with hneg hlong
  · rw [String.toList_append, hminus, List.append_assoc, List.singleton_append,
      readYear_signed (.inl ⟨rfl, rfl⟩) hrest, habs, abs_of_neg hneg, neg_mul_neg, one_mul]
  · rw [String.toList_append, hplus, List.append_assoc, List.singleton_append,
      readYear_signed (.inr ⟨rfl, rfl⟩) hrest, habs, abs_of_nonneg (by omega), one_mul]
  · rw [String.empty_append, readYear_padded (by omega), habs, abs_of_nonneg (by omega)]

end Years

section Fractions

theorem readFraction_padded (width : ℕ) (hwidth : 0 < width) (hle : width ≤ 9)
    (h : n < 10 ^ width) :
    readFraction ("." ++ padded width n).toList = some (n * 10 ^ (9 - width), []) := by
  have hlength := length_padded hwidth h
  have hnine : (padded width n).toList.take 9 = (padded width n).toList :=
    List.take_of_length_le (hlength.trans_le hle)
  have htext : ("." ++ padded width n).toList = '.' :: (padded width n).toList :=
    String.toList_append
  rw [htext, readFraction, takeWhile_isDigit_padded, hnine, isEmpty_padded, digitsValue_padded,
    hlength, List.drop_of_length_le hlength.le]
  rfl

theorem readFraction_fractionText (h : n < nanosPerSecond) :
    readFraction (fractionText n).toList = some (n, []) := by
  simp only [nanosPerSecond] at h
  simp only [fractionText]
  split_ifs with hzero hmillis hmicros
  · rw [hzero]
    rfl
  · rw [readFraction_padded 3 (by decide) (by decide) (by omega)]
    rw [show 10 ^ (9 - 3) = 1000000 from rfl,
      Nat.div_mul_cancel (Nat.dvd_of_mod_eq_zero hmillis)]
  · rw [readFraction_padded 6 (by decide) (by decide) (by omega)]
    rw [show 10 ^ (9 - 6) = 1000 from rfl, Nat.div_mul_cancel (Nat.dvd_of_mod_eq_zero hmicros)]
  · rw [readFraction_padded 9 (by decide) (by decide) h, Nat.sub_self, Nat.pow_zero, Nat.mul_one]

end Fractions

section Fields

variable (d : Date) (t : Time)

theorem readMark_cons (mark : Char) : readMark mark (mark :: rest) = some rest :=
  if_pos rfl

theorem Date.toList_text : d.text.toList = (yearText d.year).toList ++
    '-' :: ((padded 2 d.month).toList ++ '-' :: ((padded 2 d.day).toList ++ [])) := by
  simp [Date.text]

theorem dateOfChars?_text : dateOfChars? d.text.toList = some d := by
  obtain ⟨-, ⟨-, htwelfth⟩, -, hlast⟩ := d.bounds
  have hmonth : d.month < 100 := by omega
  have hday : d.day < 100 := hlast.trans_lt ((daysInMonth_le ..).trans_lt (by decide))
  have hyear (cs : List Char) : readYear ((yearText d.year).toList ++ '-' :: cs) =
      some (d.year, '-' :: cs) :=
    readYear_yearText (by simp)
  rw [d.toList_text]
  simp only [dateOfChars?, hyear, readMark_cons, readNumber_two hmonth,
    readNumber_two hday, Option.bind_eq_bind, Option.bind_some]
  exact d.ofParts?_self

-- The second of a time as it is written: a leap second has its own number.
def Time.writtenSecond : ℕ :=
  t.secondOfMinute + t.nano / nanosPerSecond

theorem Time.ofParts?_written :
    (if t.writtenSecond = 60
      then Time.ofParts? t.hour t.minute 59 (nanosPerSecond + t.nano % nanosPerSecond)
      else Time.ofParts? t.hour t.minute t.writtenSecond (t.nano % nanosPerSecond)) = some t := by
  have hlast := t.leap_last
  have hnano := t.nano_lt
  have hsecond : t.secondOfMinute < 60 := Nat.mod_lt _ (by decide)
  by_cases hleap : nanosPerSecond ≤ t.nano
  case pos =>
    have h59 : t.secondOfMinute = 59 := hlast hleap
    have hone : t.nano / nanosPerSecond = 1 := by
      simp only [nanosPerSecond] at *
      omega
    have hrest : nanosPerSecond + t.nano % nanosPerSecond = t.nano := by
      simp only [nanosPerSecond] at *
      omega
    rw [writtenSecond, h59, hone, if_pos rfl, hrest, ← h59]
    exact t.ofParts?_self
  case neg =>
    have hnone : t.nano < nanosPerSecond := Nat.not_le.1 hleap
    have hwritten : t.writtenSecond = t.secondOfMinute := by
      rw [writtenSecond, Nat.div_eq_of_lt hnone, Nat.add_zero]
    rw [hwritten, Nat.mod_eq_of_lt hnone, if_neg hsecond.ne]
    exact t.ofParts?_self

theorem Time.toList_text : t.text.toList = (padded 2 t.hour).toList ++
    ':' :: ((padded 2 t.minute).toList ++ ':' :: ((padded 2 t.writtenSecond).toList ++
      (fractionText (t.nano % nanosPerSecond)).toList)) := by
  simp [Time.text, Time.writtenSecond]

theorem timeWithSeconds?_text : timeWithSeconds? t.text.toList = some t := by
  have hhour : t.hour < 100 := (Nat.div_lt_of_lt_mul t.second_lt : t.hour < 24).trans (by decide)
  have hminute : t.minute < 100 := (Nat.mod_lt _ (by decide) : t.minute < 60).trans (by decide)
  have hsecond : t.writtenSecond < 100 := by
    have hnano := t.nano_lt
    simp only [Time.writtenSecond, Time.secondOfMinute, nanosPerSecond] at *
    omega
  have hfraction := readFraction_fractionText (Nat.mod_lt t.nano (by decide : 0 < nanosPerSecond))
  rw [t.toList_text]
  simp only [timeWithSeconds?, readMark_cons, readNumber_two hhour,
    readNumber_two hminute, readNumber_two hsecond, hfraction, Option.bind_eq_bind,
    Option.bind_some]
  exact t.ofParts?_written

end Fields

section Texts

variable (d : Date) (t : Time)

theorem isWritten_of_mem_padded (h : c ∈ (padded width n).toList) : IsWritten c :=
  .inl (isDigit_of_mem_padded h)

theorem isWritten_of_mem_yearText {year : ℤ} (h : c ∈ (yearText year).toList) : IsWritten c := by
  simp only [yearText] at h
  rw [String.toList_append, List.mem_append] at h
  obtain hsign | hdigit := h
  · split_ifs at hsign
    · have hc : c = '-' := by simpa using hsign
      exact .inr (by simp [hc])
    · have hc : c = '+' := by simpa using hsign
      exact .inr (by simp [hc])
    · cases hsign
  · exact isWritten_of_mem_padded hdigit

theorem isWritten_of_mem_fractionText (h : c ∈ (fractionText n).toList) : IsWritten c := by
  have hpoint (width k : ℕ) (h : c ∈ ("." ++ padded width k).toList) : IsWritten c := by
    rw [String.toList_append, List.mem_append] at h
    obtain hmark | hdigit := h
    · have hc : c = '.' := by simpa using hmark
      exact .inr (by simp [hc])
    · exact isWritten_of_mem_padded hdigit
  simp only [fractionText] at h
  split_ifs at h
  · cases h
  · exact hpoint _ _ h
  · exact hpoint _ _ h
  · exact hpoint _ _ h

theorem Date.isWritten_text : ∀ c ∈ d.text.toList, IsWritten c := by
  intro c hc
  rw [d.toList_text] at hc
  simp only [List.mem_append, List.mem_cons, List.not_mem_nil, or_false] at hc
  obtain hyear | rfl | hmonth | rfl | hday := hc
  · exact isWritten_of_mem_yearText hyear
  · exact .inr (by decide)
  · exact isWritten_of_mem_padded hmonth
  · exact .inr (by decide)
  · exact isWritten_of_mem_padded hday

theorem Time.isWritten_text : ∀ c ∈ t.text.toList, IsWritten c := by
  intro c hc
  rw [t.toList_text] at hc
  simp only [List.mem_append, List.mem_cons] at hc
  obtain hhour | rfl | hminute | rfl | hsecond | hfraction := hc
  · exact isWritten_of_mem_padded hhour
  · exact .inr (by decide)
  · exact isWritten_of_mem_padded hminute
  · exact .inr (by decide)
  · exact isWritten_of_mem_padded hsecond
  · exact isWritten_of_mem_fractionText hfraction

theorem trim_eq_self {text : String} (h : ∀ c ∈ text.toList, isBlank c = false) :
    Text.trim text = text := by
  have htrim : Text.trim (String.ofList text.toList) = String.ofList text.toList :=
    trim_ofList (fun c hc => h c (List.mem_of_mem_head? hc))
      (fun c hc => h c (List.mem_of_getLast? hc))
  rwa [String.ofList_toList] at htrim

theorem readDate_text : readDate d.text = .ok d := by
  rw [readDate, trim_eq_self fun c hc => (d.isWritten_text c hc).isBlank, dateOfChars?_text,
    orMalformed]

theorem readTime_text : readTime t.text = .ok t := by
  rw [readTime, trim_eq_self fun c hc => (t.isWritten_text c hc).isBlank, timeOfChars?,
    timeWithSeconds?_text, Option.some_or, orMalformed]

-- The date has no `T`, so the first one is the one between date and time.
theorem readDateTime_text (d : DateTime) : readDateTime d.text = .ok d := by
  have hlist : d.text.toList = d.date.text.toList ++ 'T' :: d.time.text.toList := by
    simp [DateTime.text]
  have htrim : Text.trim d.text = d.text := by
    apply trim_eq_self
    intro c hc
    rw [hlist, List.mem_append, List.mem_cons] at hc
    obtain hdate | rfl | htime := hc
    · exact (d.date.isWritten_text c hdate).isBlank
    · decide
    · exact (d.time.isWritten_text c htime).isBlank
  have hdate : ∀ c ∈ d.date.text.toList, (c != 'T') = true :=
    fun c hc => bne_iff_ne.2 (d.date.isWritten_text c hc).ne_separator
  have hbehind : (d.date.text.toList ++ 'T' :: d.time.text.toList).dropWhile (· != 'T') =
      'T' :: d.time.text.toList := by
    rw [List.dropWhile_append_of_pos hdate, List.dropWhile_cons_of_neg (by simp)]
  have hbefore : (d.date.text.toList ++ 'T' :: d.time.text.toList).takeWhile (· != 'T') =
      d.date.text.toList := by
    rw [List.takeWhile_append_of_pos hdate, List.takeWhile_cons_of_neg (by simp), List.append_nil]
  simp only [readDateTime]
  rw [htrim, hlist, hbehind, hbefore]
  simp only [String.ofList_toList, readDate_text, readTime_text]
  rfl

-- Every date, every time to the nanosecond and both together are read from their texts as they are.
theorem read_text :
    (∀ d : Date, readDate (Value.date d).text = .ok d) ∧
      (∀ t : Time, readTime (Value.time t).text = .ok t) ∧
      ∀ d : DateTime, readDateTime (Value.dateTime d).text = .ok d :=
  ⟨readDate_text, readTime_text, readDateTime_text⟩

end Texts

end Rulebook.Calendar
