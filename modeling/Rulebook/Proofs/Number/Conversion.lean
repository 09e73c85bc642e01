import Rulebook.Proofs.Number.Digits
import Rulebook.Proofs.Number.Rounded

/-!
Whole numbers to numbers and back. What comes back is the nearest whole number that a number can be,
and a number that is closer than a half to a whole number is rounded to it.
-/

namespace Rulebook.Number

variable {x : Float} {negative : Bool} {m k n : ℕ} {e : ℤ} {j : ℤ}

theorem IsNear.parts_ofRatio_one (hnear : IsNear n m e) (hnormal : IsNormal m e) (negative : Bool) :
    parts (ofRatio negative n 1) =
      if e ≤ 971 then .finite negative m e else .infinite negative := by
  apply parts_ofRatio negative _ hnormal Nat.one_pos
  simpa using hnear

theorem parts_ofRatio_one (negative : Bool) (n : ℕ) : (∃ m e,
    parts (ofRatio negative n 1) = .finite negative m e ∧ (nearestWhole n : ℚ) = m * 2 ^ e) ∨
      (ofRatio negative n 1 = infinity negative ∧ 2 ^ 64 ≤ nearestWhole n) := by
  obtain ⟨m, e, hnormal, hnear, hvalue⟩ := exists_isNear_nearestWhole n
  have hparts := hnear.parts_ofRatio_one hnormal negative
  by_cases he : e ≤ 971
  case pos =>
    rw [if_pos he] at hparts
    exact .inl ⟨m, e, hparts, hvalue⟩
  case neg =>
    rw [if_neg he] at hparts
    refine .inr ⟨(eq_infinity_of_parts hparts).symm, ?_⟩
    have hm : (1 : ℚ) ≤ m := by
      have hleading : leadingBit ≤ m := hnormal.leading.resolve_right (by omega)
      exact_mod_cast (by decide : 1 ≤ leadingBit).trans hleading
    have hlarge : (2 : ℚ) ^ (64 : ℤ) ≤ nearestWhole n := by
      calc (2 : ℚ) ^ (64 : ℤ) ≤ 2 ^ e := zpow_le_zpow_right₀ one_le_two (by omega)
        _ ≤ m * 2 ^ e := le_mul_of_one_le_left (by positivity) hm
        _ = nearestWhole n := hvalue.symm
    exact_mod_cast hlarge

theorem toInt?_ofRatio_one (h : nearestWhole n < 2 ^ 64) :
    toInt? (ofRatio negative n 1) = some (signed negative (nearestWhole n)) := by
  obtain ⟨m, e, hparts, hvalue⟩ | ⟨-, hlarge⟩ := parts_ofRatio_one negative n
  · exact toInt?_of_parts hparts hvalue
  · exact absurd h (Nat.not_lt.2 hlarge)

theorem toInt?_ofRatio_one_of_le (h : n ≤ 2 * leadingBit) :
    toInt? (ofRatio negative n 1) = some (signed negative n) := by
  have hexact := nearestWhole_of_isShort (isShort_of_le h)
  have hlt : nearestWhole n < 2 ^ 64 := by
    rw [hexact]
    exact h.trans_lt (by decide)
  rw [toInt?_ofRatio_one hlt, hexact]

theorem toInt?_ofInt (h : j.natAbs ≤ 2 * leadingBit) : toInt? (ofInt j) = some j := by
  rw [ofInt, toInt?_ofRatio_one_of_le h, signed]
  simp only [decide_eq_true_eq, Option.some.injEq]
  omega

theorem IsNear.mantissa_ne_zero (hnear : IsNear n m e) (hnormal : IsNormal m e) (hn : n ≠ 0) :
    m ≠ 0 := by
  rintro rfl
  have hhigh := hnear.high
  have he : e = -1074 := hnormal.leading.resolve_left (by decide)
  have hone : (1 : ℚ) ≤ n := by exact_mod_cast Nat.one_le_iff_ne_zero.2 hn
  have hsmall : (2 : ℚ) ^ e ≤ 2 ^ (0 : ℤ) := zpow_le_zpow_right₀ one_le_two (by omega)
  rw [zpow_zero] at hsmall
  push_cast at hhigh
  linarith

-- The guards of the reading only cut off numbers that are infinite anyway.
theorem ofDecimal_whole (negative : Bool) (n : ℕ) :
    ofDecimal negative ⟨n, 0⟩ = ofRatio negative n 1 := by
  by_cases hzero : n = 0
  case pos => simp [hzero, ofDecimal, ofRatio]
  case neg =>
    have hvalue : Decimal.value ⟨n, 0⟩ = n := by simp [Decimal.value]
    obtain ⟨m, e, hnormal, hnear, -⟩ := exists_isNear_nearestWhole n
    have hparts := hnear.parts_ofRatio_one hnormal negative
    by_cases he : e ≤ 971
    case pos =>
      rw [if_pos he] at hparts
      exact IsNear.ofDecimal_eq (hvalue ▸ hnear) (hnear.mantissa_ne_zero hnormal hzero) hparts
    case neg =>
      rw [if_neg he] at hparts
      have hlength : ¬((Nat.toDigits 10 n).length + 0 : ℤ) < -330 := by omega
      simp only [ofDecimal]
      rw [if_neg (by tauto)]
      split
      · exact eq_infinity_of_parts hparts
      · simp

-- `a / b` to the nearest whole number, a half upwards.
def halfUp (a b : ℕ) : ℕ :=
  if b ≤ 2 * (a % b) then a / b + 1 else a / b

theorem halfUp_le (a b : ℕ) : halfUp a b ≤ a / b + 1 := by
  rw [halfUp]
  split <;> omega

theorem abs_halfUp_sub_le {a b : ℕ} (hb : 0 < b) : |(halfUp a b : ℚ) - a / b| ≤ 1 / 2 := by
  have hb' : (0 : ℚ) < b := by exact_mod_cast hb
  have hdivision : (b * (a / b : ℕ) + (a % b : ℕ) : ℚ) = a := by exact_mod_cast Nat.div_add_mod a b
  have hrest : ((a % b : ℕ) : ℚ) < b := by exact_mod_cast Nat.mod_lt a hb
  have hquotient : (a / b : ℚ) = (a / b : ℕ) + (a % b : ℕ) / b := by
    field_simp
    linarith
  rw [hquotient, halfUp, abs_le]
  split
  case isTrue h =>
    have h : (b : ℚ) ≤ 2 * (a % b : ℕ) := by exact_mod_cast h
    have hlow : (1 / 2 : ℚ) ≤ (a % b : ℕ) / b := by
      rw [le_div_iff₀ hb']
      linarith
    have hhigh : ((a % b : ℕ) / b : ℚ) ≤ 1 := by
      rw [div_le_one hb']
      exact hrest.le
    push_cast
    constructor <;> linarith
  case isFalse h =>
    have h : (2 * (a % b : ℕ) : ℚ) < b := by exact_mod_cast Nat.not_le.1 h
    have hlow : (0 : ℚ) ≤ (a % b : ℕ) / b := by positivity
    have hhigh : ((a % b : ℕ) / b : ℚ) ≤ 1 / 2 := by
      rw [div_le_iff₀ hb']
      linarith
    constructor <;> linarith

theorem round_of_neg_exponent {i : ℕ} (hx : parts x = .finite negative m (-(i + 1 : ℕ))) :
    round x = ofRatio negative (halfUp m (2 ^ (i + 1))) 1 := by
  have hneg : ¬(0 : ℤ) ≤ -(i + 1 : ℕ) := by omega
  simp only [round, toWholeBy, hx, Nat.pow_eq, hneg, ↓reduceIte, Int.neg_neg, Int.toNat_natCast,
    decide_eq_true_eq]
  rfl

theorem toInt?_round (hx : parts x = .finite negative m e) (h : |(m * 2 ^ e : ℚ) - k| < 1 / 2) :
    toInt? (round x) = some (signed negative k) := by
  by_cases he : 0 ≤ e
  case pos =>
    obtain ⟨i, rfl⟩ := Int.eq_ofNat_of_zero_le he
    have hk : m * 2 ^ i = k := by
      apply nat_eq_of_abs_sub_lt
      push_cast
      rw [zpow_natCast] at h
      linarith
    simp only [round, toWholeBy, hx, he, ↓reduceIte]
    apply toInt?_of_parts hx
    rw [← hk]
    push_cast
    rfl
  case neg =>
    obtain ⟨i, rfl⟩ : ∃ i : ℕ, e = -(i + 1 : ℕ) := ⟨(-e).toNat - 1, by omega⟩
    rw [zpow_neg, zpow_natCast, ← div_eq_mul_inv] at h
    have hrounded : |(halfUp m (2 ^ (i + 1)) : ℚ) - m / 2 ^ (i + 1)| ≤ 1 / 2 := by
      have hrounded := abs_halfUp_sub_le (a := m) (by positivity : 0 < 2 ^ (i + 1))
      push_cast at hrounded
      exact hrounded
    have hk : halfUp m (2 ^ (i + 1)) = k := by
      apply nat_eq_of_abs_sub_lt
      calc |(halfUp m (2 ^ (i + 1)) : ℚ) - k|
          ≤ |(halfUp m (2 ^ (i + 1)) : ℚ) - m / 2 ^ (i + 1)| + |m / 2 ^ (i + 1) - (k : ℚ)| :=
            abs_sub_le _ _ _
        _ < 1 := by linarith
    have hlt := (parts_eq_finite hx).2.2.1.lt
    have hle : halfUp m (2 ^ (i + 1)) ≤ 2 * leadingBit := by
      calc halfUp m (2 ^ (i + 1)) ≤ m / 2 ^ (i + 1) + 1 := halfUp_le _ _
        _ ≤ m / 2 + 1 := by
          gcongr
          exact Nat.le_self_pow i.succ_ne_zero 2
        _ ≤ 2 * leadingBit := by
          simp only [leadingBit] at *
          omega
    rw [round_of_neg_exponent hx, ← hk]
    exact toInt?_ofRatio_one_of_le hle

theorem isNegative_ofRatio (num den : ℕ) : isNegative (ofRatio negative num den) = negative :=
  isNegative_ofMagnitudeBits (Nat.min_le_right _ _)

theorem isNegative_ofDecimal (d : Decimal) : isNegative (ofDecimal negative d) = negative := by
  obtain ⟨n, hn, h⟩ := exists_ofDecimal_eq negative d
  rw [h, isNegative_ofMagnitudeBits hn]

theorem isNegative_round (x : Float) : isNegative (round x) = isNegative x := by
  cases hx : parts x with
  | undefined | infinite => simp only [round, toWholeBy, hx]
  | finite negative m e =>
    simp only [round, toWholeBy, hx]
    split
    · rfl
    · rw [isNegative_ofRatio, (parts_eq_finite hx).1]

theorem isNegative_read? {cs : List Char} (hsign : '-' ∉ cs) (h : read? cs = some x) :
    isNegative x = false := by
  have hpositive : (sign cs).1 = false := by
    simp only [sign]
    split
    · rfl
    · exact absurd List.mem_cons_self hsign
    · rfl
  simp only [read?, hpositive] at h
  split at h
  case isTrue =>
    cases h
    exact isNegative_ofMagnitudeBits (Nat.le_refl _)
  case isFalse =>
    split at h
    case isTrue =>
      cases h
      decide
    case isFalse =>
      simp only [Option.ite_none_left_eq_some, Option.map_eq_some_iff] at h
      obtain ⟨-, shift, -, rfl⟩ := h
      exact isNegative_ofDecimal _

theorem nonneg_of_toInt? (hx : isNegative x = false) (h : toInt? x = some j) : 0 ≤ j := by
  obtain ⟨negative, m, e, hparts⟩ := exists_parts_of_toInt? h
  obtain ⟨k, rfl, -⟩ := toInt?_eq_some hparts h
  rw [← (parts_eq_finite hparts).1, hx]
  exact Int.natCast_nonneg k

theorem fraction_of_toInt? (h : toInt? x = some j) : fraction x = 0 := by
  obtain ⟨negative, m, e, hx⟩ := exists_parts_of_toInt? h
  rw [fraction, truncate_of_toInt? h, sub_self_of_parts hx]

end Rulebook.Number
