import Rulebook.Calendar.Text
import Rulebook.Proofs.Number.Conversion

/-!
Seconds are scaled to milliseconds as numbers. Seconds that the text of a duration has are scaled to
the milliseconds they came from; of whole seconds, those with short binary digits keep their value.
-/

namespace Rulebook.Calendar

open Number

variable {x : Float} {negative : Bool} {m k : ℕ} {e n : ℤ}

theorem parts_thousand : parts (ofInt 1000) = .finite false (1000 * 2 ^ 43) (-43) := by
  decide +kernel

theorem thousand_mul {num den : ℕ} (hx : parts x = .finite negative m e) (hd : 0 < den)
    (h : (num / den : ℚ) = 1000 * (m * 2 ^ e)) : ofInt 1000 * x = ofRatio negative num den := by
  have hthousand : ((1000 * 2 ^ 43 : ℕ) * 2 ^ (-43 : ℤ) : ℚ) = 1000 := by norm_num
  have hproduct : ofInt 1000 * x = ofRatio (false ^^ negative) num den :=
    mul_eq_ofRatio parts_thousand hx hd (by rw [h, hthousand])
  rwa [Bool.false_xor] at hproduct

theorem exists_ratio (m : ℕ) (e : ℤ) :
    ∃ num den : ℕ, 0 < den ∧ (num / den : ℚ) = 1000 * (m * 2 ^ e) := by
  have hpos : 0 < (scaleDown (1000 * m) 1 (-e)).2 := scaleDown_pos Nat.one_pos
  refine ⟨(scaleDown (1000 * m) 1 (-e)).1, _, hpos, ?_⟩
  rw [cast_scaleDown, zpow_neg, div_inv_eq_mul]
  push_cast
  ring

theorem isNegative_thousand_mul (hx : isNegative x = false) :
    isNegative (ofInt 1000 * x) = false := by
  cases hparts : parts x with
  | undefined =>
    have hundefined : x = undefined := by
      apply eq_of_isUndefined
      · rw [isUndefined, hparts]
        rfl
      · decide
    subst hundefined
    decide +kernel
  | infinite negative =>
    obtain rfl := eq_infinity_of_parts hparts
    rw [infinity, isNegative_ofMagnitudeBits (Nat.le_refl _)] at hx
    subst hx
    decide +kernel
  | finite negative m e =>
    obtain ⟨num, den, hd, h⟩ := exists_ratio m e
    rw [thousand_mul hparts hd h, isNegative_ofRatio, ← (parts_eq_finite hparts).1, hx]

theorem scalePart?_nonneg (hx : isNegative x = false)
    (h : Duration.scalePart? 1000 x = some n) : 0 ≤ n := by
  rw [Duration.scalePart?, Option.filter_eq_some_iff] at h
  exact nonneg_of_toInt? (by rw [isNegative_round, isNegative_thousand_mul hx]) h.1

section WholeSeconds

theorem round_ofRatio_one (negative : Bool) (n : ℕ) :
    toInt? (round (ofRatio negative n 1)) = toInt? (ofRatio negative n 1) := by
  obtain ⟨m, e, hparts, hvalue⟩ | ⟨hinfinity, -⟩ := parts_ofRatio_one negative n
  · rw [toInt?_of_parts hparts hvalue]
    apply toInt?_round hparts
    rw [hvalue, sub_self, abs_zero]
    norm_num
  · rw [hinfinity]
    cases negative <;> decide +kernel

-- What whole seconds are read as, in milliseconds.
def millisRead (n : ℕ) : ℕ :=
  nearestWhole (1000 * nearestWhole n)

theorem isShort_of_thousand_mul (h : IsShort (1000 * k)) : IsShort k := by
  by_cases hlog : k.log2 < 53
  case pos => exact isShort_of_log2_lt hlog
  case neg =>
    obtain ⟨i, hi⟩ := Nat.exists_eq_add_of_le' (Nat.not_lt.1 hlog)
    have hk : k ≠ 0 := by
      rintro rfl
      exact absurd hlog (by decide)
    have hlength : i + 62 ≤ (1000 * k).log2 := by
      rw [Nat.le_log2 (by omega)]
      calc 2 ^ (i + 62) = 2 ^ 9 * 2 ^ k.log2 := by rw [hi, ← pow_add]; congr 1; omega
        _ ≤ 1000 * k := Nat.mul_le_mul (by decide) (Nat.log2_self_le hk)
    have hdvd : 2 ^ 3 * 2 ^ (i + 7) ∣ 2 ^ 3 * (125 * k) := by
      calc 2 ^ 3 * 2 ^ (i + 7) = 2 ^ (i + 10) := by rw [← pow_add]; congr 1; omega
        _ ∣ 2 ^ ((1000 * k).log2 - 52) := pow_dvd_pow 2 (by omega)
        _ ∣ 1000 * k := h
        _ = 2 ^ 3 * (125 * k) := by omega
    have hcoprime : Nat.Coprime (2 ^ (i + 7)) 125 := Nat.Coprime.pow_left _ (by decide)
    have hshort := hcoprime.dvd_of_dvd_mul_left (Nat.dvd_of_mul_dvd_mul_left (by decide) hdvd)
    exact (pow_dvd_pow 2 (by omega)).trans hshort

theorem millisRead_eq_iff : millisRead k = 1000 * k ↔ IsShort (1000 * k) := by
  constructor
  · intro h
    exact h ▸ isShort_nearestWhole _
  · intro h
    rw [millisRead, nearestWhole_of_isShort (isShort_of_thousand_mul h), nearestWhole_of_isShort h]

theorem fits_natCast (n : ℕ) : fits (n : ℤ) = decide ((n : ℤ) ≤ maxPart) := by
  have hle : minPart ≤ (n : ℤ) := le_trans (by decide) (Int.natCast_nonneg n)
  simp [fits, hle]

theorem filter_fits (n : ℕ) :
    (some (n : ℤ)).filter fits = if (n : ℤ) ≤ maxPart then some (n : ℤ) else none := by
  by_cases h : (n : ℤ) ≤ maxPart <;> simp [Option.filter, fits_natCast, h]

theorem filter_fits_ofRatio_one (n : ℕ) : (toInt? (ofRatio false n 1)).filter fits =
    if (nearestWhole n : ℤ) ≤ maxPart then some (nearestWhole n : ℤ) else none := by
  obtain ⟨m, e, hparts, hvalue⟩ | ⟨hinfinity, hlarge⟩ := parts_ofRatio_one false n
  · rw [toInt?_of_parts hparts hvalue]
    exact filter_fits _
  · have hmax : maxPart < 2 ^ 63 := by decide
    rw [hinfinity, if_neg (by omega)]
    decide +kernel

-- Seconds that are read as infinite are too many with their nearest whole number as well.
theorem scalePart?_whole (n : ℕ) : Duration.scalePart? 1000 (ofDecimal false ⟨n, 0⟩) =
    if (millisRead n : ℤ) ≤ maxPart then some (millisRead n : ℤ) else none := by
  rw [ofDecimal_whole, Duration.scalePart?]
  obtain ⟨m, e, hparts, hvalue⟩ | ⟨hinfinity, hlarge⟩ := parts_ofRatio_one false n
  · have hproduct : ofInt 1000 * ofRatio false n 1 = ofRatio false (1000 * nearestWhole n) 1 := by
      apply thousand_mul hparts Nat.one_pos
      push_cast
      rw [div_one, hvalue]
    rw [hproduct, round_ofRatio_one]
    exact filter_fits_ofRatio_one _
  · have hnone : (toInt? (round (ofInt 1000 * infinity false))).filter fits = none := by
      decide +kernel
    have hmany : ¬(millisRead n : ℤ) ≤ maxPart := by
      have hmax : maxPart < 2 ^ 63 := by decide
      have hle := le_two_mul_nearestWhole (1000 * nearestWhole n)
      rw [millisRead]
      omega
    rw [hinfinity, hnone, if_neg hmany]

end WholeSeconds

section Thousandths

theorem parts_thousand_literal : parts 1000 = .finite false (1000 * 2 ^ 43) (-43) := by
  decide +kernel

theorem exists_parts_ofInt (hk : k ≤ 2 * leadingBit) :
    ∃ m e, parts (ofInt k) = .finite false m e ∧ (k : ℚ) = m * 2 ^ e := by
  have hint : toInt? (ofInt k) = some (k : ℤ) := toInt?_ofInt hk
  obtain ⟨negative, m, e, hparts⟩ := exists_parts_of_toInt? hint
  obtain rfl : negative = false := by
    rw [← (parts_eq_finite hparts).1, ofInt, isNegative_ofRatio]
    simp
  obtain ⟨k', hk', hvalue⟩ := toInt?_eq_some hparts hint
  obtain rfl : k = k' := by simpa using hk'
  exact ⟨m, e, hparts, hvalue⟩

theorem ofInt_div_thousand (hk : k ≤ 2 * leadingBit) : ofInt k / 1000 = ofRatio false k 1000 := by
  obtain ⟨m, e, hparts, hvalue⟩ := exists_parts_ofInt hk
  have hthousand : ((1000 * 2 ^ 43 : ℕ) * 2 ^ (-43 : ℤ) : ℚ) = (1000 : ℕ) := by norm_num
  have hquotient : ofInt k / 1000 = ofRatio (false ^^ false) k 1000 :=
    div_eq_ofRatio hparts parts_thousand_literal (by decide) (by decide)
      (by rw [← hvalue, hthousand])
  rwa [Bool.false_xor] at hquotient

-- A quotient below a minute is off by so little that the product is off by less than a half.
theorem exists_parts_thousandths (hk : k < 60000) : ∃ m e,
    parts (ofInt k / 1000) = .finite false m e ∧ |(m * 2 ^ e : ℚ) - k / 1000| ≤ 1 / 2 ^ 47 := by
  obtain ⟨m, e, hnormal, hnear⟩ := exists_isNear k (by decide : 0 < 1000)
  have hlt : (k / (1000 : ℕ) : ℚ) < 2 ^ (6 : ℤ) := by
    have hk : (k : ℚ) < (60000 : ℕ) := by exact_mod_cast hk
    rw [div_lt_iff₀ (by norm_num)]
    exact hk.trans_le (by norm_num)
  have he := hnear.exponent_le hnormal hlt (by decide)
  refine ⟨m, e, ?_, ?_⟩
  · rw [ofInt_div_thousand (hk.le.trans (by decide)), parts_ofRatio _ hnear hnormal (by decide),
      if_pos (by omega)]
  · have hunit : (2 : ℚ) ^ e ≤ 2 ^ (-46 : ℤ) := zpow_le_zpow_right₀ one_le_two he
    have herror := hnear.abs_sub_le
    norm_num at hunit herror ⊢
    linarith

theorem scalePart?_thousandths (hk : k < 60000) :
    Duration.scalePart? 1000 (ofInt k / 1000) = some (k : ℤ) := by
  obtain ⟨m, e, hparts, herror⟩ := exists_parts_thousandths hk
  obtain ⟨num, den, hd, hproduct⟩ := exists_ratio m e
  obtain ⟨m', e', hnormal, hnear⟩ := exists_isNear num hd
  have hk' : (k : ℚ) < 60000 := by exact_mod_cast hk
  rw [abs_le] at herror
  have hlt : (num / den : ℚ) < 2 ^ (16 : ℤ) := by
    rw [hproduct]
    norm_num at herror ⊢
    linarith
  have he := hnear.exponent_le hnormal hlt (by decide)
  have hparts' := parts_ofRatio false hnear hnormal hd
  rw [if_pos (by omega)] at hparts'
  have hunit : (2 : ℚ) ^ e' ≤ 2 ^ (-36 : ℤ) := zpow_le_zpow_right₀ one_le_two he
  have hrounded := hnear.abs_sub_le
  have hclose : |(m' * 2 ^ e' : ℚ) - k| < 1 / 2 := by
    rw [hproduct, abs_le] at hrounded
    norm_num at hunit herror
    rw [abs_lt]
    constructor <;> linarith
  rw [Duration.scalePart?, thousand_mul hparts hd hproduct, toInt?_round hparts' hclose]
  refine (filter_fits k).trans (if_pos ?_)
  have : (60000 : ℤ) ≤ maxPart := by decide
  omega

end Thousandths

end Rulebook.Calendar
