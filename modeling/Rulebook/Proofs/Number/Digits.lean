import Rulebook.Number.Reading
import Rulebook.Proofs.Number.Shortest

/-!
Numbers as digits. The digits that a finite number is written with read back as the number, and what
is read from digits has no sign.
-/

namespace Rulebook.Number

variable {m k : ℕ} {e : ℤ} {x : Float} {negative : Bool} {tieUp : ℕ → Bool}

theorem IsNear.bounds {v : ℚ} (h : IsNear v m e) (hm : m ≠ 0) (hnormal : IsNormal m e)
    (he : e ≤ 971) : (10 : ℚ) ^ (-330 : ℤ) ≤ v ∧ v < 10 ^ (330 : ℤ) := by
  obtain ⟨hlow, hhigh, -⟩ := h.scaled
  have hgap := gapBelow_le m e
  have hunit : (0 : ℚ) < 2 ^ e := by positivity
  constructor
  · have hone : (1 : ℚ) ≤ m := by exact_mod_cast Nat.one_le_iff_ne_zero.2 hm
    have hleast : (2 : ℚ) ^ (-1074 : ℤ) ≤ 2 ^ e := zpow_le_zpow_right₀ one_le_two hnormal.exponent
    have hten : (10 : ℚ) ^ (-330 : ℤ) ≤ 2 ^ (-1074 - 1 : ℤ) :=
      ten_zpow_le (by decide) (by decide) (by decide)
    rw [zpow_sub_one₀ two_ne_zero] at hten
    rw [le_div_iff₀ hunit] at hlow
    have : (1 / 2 : ℚ) * 2 ^ e ≤ (m - gapBelow m e) * 2 ^ e := by gcongr; linarith
    linarith
  · have hm' : (m + 1 : ℚ) ≤ 2 * leadingBit := by exact_mod_cast hnormal.lt
    rw [cast_leadingBit] at hm'
    have hten : (2 : ℚ) ^ 53 * 2 ^ (971 : ℤ) ≤ 10 ^ (330 : ℤ) := by
      exact_mod_cast (by decide +kernel : 2 ^ 53 * 2 ^ 971 ≤ 10 ^ 330)
    calc v ≤ (m + 1 / 2) * 2 ^ e := h.high
      _ < 2 ^ 53 * 2 ^ e := by gcongr; linarith
      _ ≤ 2 ^ 53 * 2 ^ (971 : ℤ) := by gcongr; exact one_le_two
      _ ≤ 10 ^ (330 : ℤ) := hten

theorem Decimal.digits_ne_zero {d : Decimal} (h : 0 < d.value) : d.digits ≠ 0 := by
  intro hzero
  rw [value, hzero, Nat.cast_zero, zero_mul] at h
  exact lt_irrefl _ h

theorem Decimal.value_bounds {d : Decimal} (hd : d.digits ≠ 0) :
    (10 : ℚ) ^ ((Nat.toDigits 10 d.digits).length + d.exponent - 1) ≤ d.value ∧
      d.value < 10 ^ ((Nat.toDigits 10 d.digits).length + d.exponent) := by
  have hpos : 0 < (Nat.toDigits 10 d.digits).length := Nat.length_toDigits_pos
  obtain ⟨k, hk⟩ : ∃ k, (Nat.toDigits 10 d.digits).length = k + 1 :=
    ⟨_, (Nat.succ_pred_eq_of_pos hpos).symm⟩
  have hle : 10 ^ k ≤ d.digits := by
    by_contra! hlt
    obtain rfl | hpos := k.eq_zero_or_pos
    · exact hd (Nat.lt_one_iff.1 hlt)
    · have := (Nat.length_toDigits_le_iff (by decide) hpos).2 hlt
      omega
  have hlt : d.digits < 10 ^ (k + 1) :=
    (Nat.length_toDigits_le_iff (by decide) (by omega)).1 hk.le
  rw [hk, value]
  constructor
  · rw [show ((k + 1 : ℕ) : ℤ) + d.exponent - 1 = k + d.exponent by omega,
      zpow_add₀ (by norm_num), zpow_natCast]
    gcongr
    exact_mod_cast hle
  · rw [zpow_add₀ (by norm_num), zpow_natCast]
    gcongr
    exact_mod_cast hlt

theorem IsNear.ofDecimal_eq {d : Decimal} (h : IsNear d.value m e) (hm : m ≠ 0)
    (hx : parts x = .finite negative m e) : ofDecimal negative d = x := by
  obtain ⟨-, -, hnormal, he, -⟩ := parts_eq_finite hx
  obtain ⟨hleast, hmost⟩ := h.bounds hm hnormal he
  have hd : d.digits ≠ 0 := Decimal.digits_ne_zero (lt_of_lt_of_le (by positivity) hleast)
  obtain ⟨hlow, hhigh⟩ := Decimal.value_bounds hd
  have h₁ := (zpow_lt_zpow_iff_right₀ (by norm_num : (1 : ℚ) < 10)).1 (hleast.trans_lt hhigh)
  have h₂ := (zpow_lt_zpow_iff_right₀ (by norm_num : (1 : ℚ) < 10)).1 (hlow.trans_lt hmost)
  simp only [ofDecimal]
  rw [if_neg (by omega), if_neg (by omega)]
  rw [Decimal.value] at h
  split
  case isTrue he =>
    refine IsNear.ofRatio_eq_of_parts ?_ hx Nat.one_pos
    obtain ⟨k, hk⟩ := Int.eq_ofNat_of_zero_le he
    rw [hk] at h ⊢
    simpa using h
  case isFalse he =>
    refine IsNear.ofRatio_eq_of_parts ?_ hx (by simp)
    obtain ⟨k, hk⟩ : ∃ k : ℕ, d.exponent = -k := ⟨(-d.exponent).toNat, by omega⟩
    rw [hk] at h ⊢
    simpa [div_eq_mul_inv] using h

theorem ofDecimal_of_value_eq {d : Decimal} (hx : parts x = .finite negative m e)
    (h : d.value = (shortest tieUp m e).value) : ofDecimal negative d = x := by
  obtain ⟨hneg, hu, hnormal, he, hbits⟩ := parts_eq_finite hx
  by_cases hm : m = 0
  case pos =>
    have hd : d.digits = 0 := by simpa [hm, shortest, Decimal.value, zpow_ne_zero] using h
    obtain rfl := hnormal.leading.resolve_left (by rw [hm]; decide)
    rw [ofDecimal]
    simp only [hd, true_or, ↓reduceIte]
    rw [← ofMagnitudeBits_magnitudeBits hu, hneg, hbits, hm]
    rfl
  case neg => exact IsNear.ofDecimal_eq (h ▸ shortest_isNear hm hnormal he) hm hx

theorem digitsValue_eq (ds : List Char) : digitsValue ds = Nat.ofDigitChars 10 ds 0 := by
  simp only [digitsValue, digitValue, Nat.ofDigitChars_eq_foldl, Nat.mul_comm]

theorem digitsValue_toDigits (n : ℕ) : digitsValue (Nat.toDigits 10 n) = n := by
  rw [digitsValue_eq, Nat.ofDigitChars_ten_toDigits]

theorem digitsValue_append_zeros (n k : ℕ) :
    digitsValue (Nat.toDigits 10 n ++ Decimal.zeros k) = n * 10 ^ k := by
  rw [digitsValue_eq, Nat.ofDigitChars_append, Nat.ofDigitChars_ten_toDigits, Decimal.zeros,
    Nat.ofDigitChars_replicate_zero, Nat.mul_comm]

theorem digitsValue_zeros_append (n k : ℕ) :
    digitsValue (Decimal.zeros k ++ Nat.toDigits 10 n) = n := by
  rw [digitsValue_eq, Nat.ofDigitChars_append, Decimal.zeros, Nat.ofDigitChars_replicate_zero,
    Nat.mul_zero, Nat.ofDigitChars_ten_toDigits]

theorem isDigit_of_mem_zeros {c : Char} (h : c ∈ Decimal.zeros k) : c.isDigit = true :=
  (List.mem_replicate.1 h).2 ▸ rfl

theorem isDigit_of_mem_toDigits {n : ℕ} {c : Char} (h : c ∈ Nat.toDigits 10 n) :
    c.isDigit = true :=
  Nat.isDigit_of_mem_toDigits (by decide) (by decide) h

theorem toLower_of_isDigit {c : Char} (h : c.isDigit = true) : c.toLower = c := by
  simp only [Char.isDigit, Bool.and_eq_true, decide_eq_true_eq, UInt32.le_iff_toNat_le] at h
  rw [Char.toLower, dif_neg]
  simp only [UInt32.le_iff_toNat_le]
  exact fun hupper => absurd (hupper.1.trans h.2) (by decide)

-- Digits, and more digits after a point if there are any.
structure Digits where
  whole : List Char
  fraction : List Char
  nonempty : whole ≠ []
  isDigit : ∀ c ∈ whole ++ fraction, c.isDigit = true

namespace Digits

def written (ds : Digits) : List Char :=
  if ds.fraction = [] then ds.whole else ds.whole ++ '.' :: ds.fraction

def decimal (ds : Digits) : Decimal :=
  ⟨digitsValue (ds.whole ++ ds.fraction), -ds.fraction.length⟩

def number (ds : Digits) : Float :=
  ofDigits ds.whole ds.fraction

theorem number_eq (ds : Digits) : ds.number = ofDecimal false ds.decimal := rfl

theorem exists_written_eq_cons (ds : Digits) :
    ∃ c cs, ds.written = c :: cs ∧ c.isDigit = true := by
  obtain ⟨whole, fraction, hne, hdigits⟩ := ds
  cases whole with
  | nil => exact absurd rfl hne
  | cons c whole =>
    have hc := hdigits c (by simp)
    simp only [written]
    split
    · exact ⟨c, whole, rfl, hc⟩
    · exact ⟨c, _, rfl, hc⟩

theorem spanDigits_written (ds : Digits) : spanDigits ds.written =
    (ds.whole, if ds.fraction = [] then [] else '.' :: ds.fraction) := by
  have hwhole : ∀ c ∈ ds.whole, c.isDigit = true :=
    fun c hc => ds.isDigit c (List.mem_append_left _ hc)
  rw [spanDigits, List.span_eq_takeWhile_dropWhile, written]
  split
  · simp [List.takeWhile_eq_self_iff.2 hwhole, List.dropWhile_eq_nil_iff.2 hwhole]
  · have hpoint : ('.' : Char).isDigit = false := by decide
    simp [List.takeWhile_append_of_pos hwhole, List.dropWhile_append_of_pos hwhole, hpoint]

-- Digits are no name of an infinity, and of no sign.
theorem read?_written (ds : Digits) : read? ds.written = some ds.number := by
  obtain ⟨c, cs, hcons, hc⟩ := ds.exists_written_eq_cons
  have hsign : sign ds.written = (false, ds.written) := by
    rw [hcons]
    by_cases hplus : c = '+'
    case pos => exact absurd (hplus ▸ hc) (by decide)
    case neg =>
      by_cases hminus : c = '-'
      · exact absurd (hminus ▸ hc) (by decide)
      · simp [sign, hplus, hminus]
  have hname (name : String) (hfirst : ∀ c ∈ name.toList.head?, c.isDigit = false) :
      (String.ofList (ds.written.map Char.toLower) == name) = false := by
    rw [beq_eq_false_iff_ne]
    rintro rfl
    rw [String.toList_ofList, hcons, List.map_cons, toLower_of_isDigit hc] at hfirst
    exact absurd hc (by simp [hfirst c rfl])
  have hinf := hname "inf" (by simp)
  have hinfinity := hname "infinity" (by simp)
  have hnan := hname "nan" (by simp)
  have hspan : spanDigits ds.fraction = (ds.fraction, []) := by
    have hfraction : ∀ c ∈ ds.fraction, c.isDigit = true :=
      fun c hc => ds.isDigit c (List.mem_append_right _ hc)
    rw [spanDigits, List.span_eq_takeWhile_dropWhile, List.takeWhile_eq_self_iff.2 hfraction,
      List.dropWhile_eq_nil_iff.2 hfraction]
  have hwhole : ds.whole.isEmpty = false := by simp [ds.nonempty]
  simp only [read?, hsign, spanDigits_written]
  by_cases hnone : ds.fraction = []
  case pos =>
    simp [hinf, hinfinity, hnan, hnone, hwhole, number, ofDigits]
  case neg =>
    simp [hinf, hinfinity, hnan, hnone, hwhole, hspan, number, ofDigits]

end Digits

namespace Decimal

variable {d : Decimal}

theorem exists_digits_of_nonneg (he : 0 ≤ d.exponent) :
    ∃ ds : Digits, d.positional = ds.written ∧ ds.decimal.value = d.value := by
  obtain ⟨k, hk⟩ := Int.eq_ofNat_of_zero_le he
  simp only [positional]
  rw [if_pos he]
  split
  case isTrue hzero =>
    refine ⟨⟨['0'], [], by simp, by simp⟩, rfl, ?_⟩
    simp [value, hzero, Digits.decimal, digitsValue, digitValue]
  case isFalse =>
    refine ⟨⟨Nat.toDigits 10 d.digits ++ zeros k, [], ?_, ?_⟩, ?_, ?_⟩
    · exact List.append_ne_nil_of_left_ne_nil (List.ne_nil_of_length_pos Nat.length_toDigits_pos) _
    · rw [List.append_nil]
      exact List.forall_mem_append.2
        ⟨fun c => isDigit_of_mem_toDigits, fun c => isDigit_of_mem_zeros⟩
    · rw [hk]
      rfl
    · simp [value, Digits.decimal, digitsValue_append_zeros, hk]

theorem exists_digits_of_neg (he : ¬0 ≤ d.exponent) :
    ∃ ds : Digits, d.positional = ds.written ∧ ds.decimal = d := by
  obtain ⟨k, hk⟩ : ∃ k : ℕ, d.exponent = -k := ⟨(-d.exponent).toNat, by omega⟩
  have hk' : (-d.exponent).toNat = k := by omega
  simp only [positional]
  rw [if_neg he, hk']
  generalize hpadded :
    zeros (k + 1 - (Nat.toDigits 10 d.digits).length) ++ Nat.toDigits 10 d.digits = padded
  have hlength : k + 1 ≤ padded.length := by
    rw [← hpadded, zeros, List.length_append, List.length_replicate]
    omega
  have hfraction : (padded.drop (padded.length - k)).length = k := by
    rw [List.length_drop]
    omega
  have hpos : 0 < (padded.drop (padded.length - k)).length := by omega
  refine ⟨⟨padded.take (padded.length - k), padded.drop (padded.length - k), ?_, ?_⟩, ?_, ?_⟩
  · exact List.ne_nil_of_length_pos (by rw [List.length_take]; omega)
  · rw [List.take_append_drop, ← hpadded]
    exact List.forall_mem_append.2
      ⟨fun c => isDigit_of_mem_zeros, fun c => isDigit_of_mem_toDigits⟩
  · rw [Digits.written, if_neg (List.ne_nil_of_length_pos hpos)]
  · simp only [Digits.decimal]
    rw [List.take_append_drop, hfraction, ← hpadded, digitsValue_zeros_append, ← hk]

theorem exists_digits (d : Decimal) :
    ∃ ds : Digits, d.positional = ds.written ∧ ds.decimal.value = d.value := by
  by_cases he : 0 ≤ d.exponent
  case pos => exact exists_digits_of_nonneg he
  case neg =>
    obtain ⟨ds, hwritten, hdecimal⟩ := exists_digits_of_neg he
    exact ⟨ds, hwritten, congrArg value hdecimal⟩

end Decimal

-- The text of a number is digits that read as the number.
theorem exists_digits_of_isFinite (hx : isFinite x = true) (hsign : isNegative x = false) :
    ∃ ds : Digits, (text x).toList = ds.written ∧ ds.number = x := by
  cases hparts : parts x with
  | undefined | infinite => simp [isFinite, hparts] at hx
  | finite negative m e =>
    obtain ⟨hneg, -⟩ := parts_eq_finite hparts
    rw [hsign] at hneg
    subst hneg
    obtain ⟨ds, hwritten, hvalue⟩ := (shortest (fun _ => true) m e).exists_digits
    refine ⟨ds, ?_, ds.number_eq.trans (ofDecimal_of_value_eq hparts hvalue)⟩
    rw [← hwritten, text, hparts]
    simp [signText]

theorem eq_infinity_of_parts (h : parts x = .infinite negative) : infinity negative = x := by
  have hu : isUndefined x = false := by rw [isUndefined, h]; rfl
  have hle := magnitudeBits_le hu
  simp only [parts] at h
  split at h
  case isTrue h₀ =>
    split at h <;> cases h
    rw [← ofMagnitudeBits_magnitudeBits hu, isNegative_ofMagnitudeBits hle, infinity]
    congr 1
    simp only [leadingBit] at *
    omega
  case isFalse => split at h <;> cases h

theorem ofDecimal_huge {d : Decimal} (h : (10 : ℚ) ^ (331 : ℤ) ≤ d.value) :
    ofDecimal negative d = infinity negative := by
  have hd : d.digits ≠ 0 := Decimal.digits_ne_zero (lt_of_lt_of_le (by positivity) h)
  have hlarge := (zpow_lt_zpow_iff_right₀ (by norm_num : (1 : ℚ) < 10)).1
    (h.trans_lt (Decimal.value_bounds hd).2)
  simp only [ofDecimal]
  rw [if_neg (by omega), if_pos (by omega)]

-- Every number with a sign for positive can be written with digits, the infinite one among them.
theorem exists_digits_number_eq (hu : isUndefined x = false) (hs : isNegative x = false) :
    ∃ ds : Digits, ds.number = x := by
  cases hparts : parts x with
  | undefined => rw [isUndefined, hparts] at hu; cases hu
  | infinite negative =>
    have hx := eq_infinity_of_parts hparts
    rw [← hx, infinity, isNegative_ofMagnitudeBits (Nat.le_refl _)] at hs
    subst hs
    obtain ⟨ds, -, hvalue⟩ := (⟨1, 331⟩ : Decimal).exists_digits
    have hlarge : (10 : ℚ) ^ (331 : ℤ) ≤ ds.decimal.value := by
      rw [hvalue, Decimal.value, Nat.cast_one, one_mul]
    exact ⟨ds, ds.number_eq.trans ((ofDecimal_huge hlarge).trans hx)⟩
  | finite negative m e =>
    obtain ⟨ds, -, hnumber⟩ := exists_digits_of_isFinite (by rw [isFinite, hparts]) hs
    exact ⟨ds, hnumber⟩

theorem exists_ofDecimal_eq (negative : Bool) (d : Decimal) :
    ∃ n ≤ 2047 * leadingBit, ofDecimal negative d = ofMagnitudeBits negative n := by
  have hratio (num den : ℕ) :
      ∃ n ≤ 2047 * leadingBit, ofRatio negative num den = ofMagnitudeBits negative n :=
    ⟨_, Nat.min_le_right _ _, rfl⟩
  simp only [ofDecimal]
  split_ifs
  · exact ⟨0, Nat.zero_le _, rfl⟩
  · exact ⟨_, Nat.le_refl _, rfl⟩
  · exact hratio ..
  · exact hratio ..

theorem isUndefined_ofDigits (whole fraction : List Char) :
    isUndefined (ofDigits whole fraction) = false := by
  obtain ⟨n, hn, h⟩ := exists_ofDecimal_eq false ⟨digitsValue (whole ++ fraction), -fraction.length⟩
  rw [ofDigits, h, isUndefined_ofMagnitudeBits hn]

theorem isNegative_ofDigits (whole fraction : List Char) :
    isNegative (ofDigits whole fraction) = false := by
  obtain ⟨n, hn, h⟩ := exists_ofDecimal_eq false ⟨digitsValue (whole ++ fraction), -fraction.length⟩
  rw [ofDigits, h, isNegative_ofMagnitudeBits hn]

end Rulebook.Number
