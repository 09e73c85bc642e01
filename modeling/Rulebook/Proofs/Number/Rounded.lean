import Rulebook.Proofs.Number.Arithmetic
import Rulebook.Proofs.Number.Whole

/-!
How far rounding goes. Every ratio has a number nearest to it, which is off by half a unit of the
last place at most; a whole number is kept if 53 binary digits are enough for it, and otherwise the
nearest such whole number is taken.
-/

namespace Rulebook.Number

variable {x : Float} {negative : Bool} {m num den k : ℕ} {e : ℤ} {v : ℚ}

theorem exists_isNear (num : ℕ) (hd : 0 < den) : ∃ m e, IsNormal m e ∧ IsNear (num / den) m e := by
  -- At the least exponent the quotient has all digits that rounding can ask for.
  obtain ⟨j, hj⟩ : ∃ j : ℕ, -1074 = -(j : ℤ) := ⟨1074, rfl⟩
  have hscaled : ((num * 2 ^ j : ℕ) / den : ℚ) = num / den / 2 ^ (-j : ℤ) := by
    push_cast
    rw [zpow_neg, div_inv_eq_mul, zpow_natCast, div_mul_eq_mul_div]
  have htells := tells_quotient (a := num * 2 ^ j) hd
  rw [hscaled] at htells
  have hplace : -j ≤ binary.targetExponent (Float.Model.totalExponent (num * 2 ^ j / den) (-j)) :=
    hj ▸ le_max_right _ _
  obtain ⟨m, e, hnormal, hnear, -⟩ := roundWithAccuracy_eq false hplace htells
  exact ⟨m, e, hnormal, hnear⟩

theorem parts_ofRatio (negative : Bool) (hnear : IsNear (num / den) m e) (hnormal : IsNormal m e)
    (hd : 0 < den) : parts (ofRatio negative num den) =
      if e ≤ 971 then .finite negative m e else .infinite negative := by
  have ⟨hlt, hleast, hleading⟩ := hnormal
  rw [hnear.ofRatio_eq hnormal hd]
  split
  case isTrue he =>
    have hle : (e + 1074).toNat * leadingBit + m ≤ 2047 * leadingBit := by
      simp only [leadingBit] at *
      omega
    rw [Nat.min_eq_left hle]
    exact parts_ofMagnitudeBits negative hnormal he
  case isFalse he =>
    have hge : 2047 * leadingBit ≤ (e + 1074).toNat * leadingBit + m := by
      simp only [leadingBit] at *
      omega
    rw [Nat.min_eq_right hge, parts, magnitudeBits_ofMagnitudeBits (Nat.le_refl _),
      isNegative_ofMagnitudeBits (Nat.le_refl _)]
    rfl

def signed (negative : Bool) (n : ℕ) : ℤ :=
  if negative then -n else n

theorem toInt?_of_parts (hx : parts x = .finite negative m e) (hk : (k : ℚ) = m * 2 ^ e) :
    toInt? x = some (signed negative k) := by
  simp only [toInt?, hx, Nat.pow_eq, signed]
  by_cases he : 0 ≤ e
  case pos =>
    obtain ⟨j, rfl⟩ := Int.eq_ofNat_of_zero_le he
    have hk : k = m * 2 ^ j := by
      have : (k : ℚ) = (m * 2 ^ j : ℕ) := by simpa using hk
      exact_mod_cast this
    simp only [Int.natCast_nonneg, ↓reduceIte, Int.toNat_natCast, hk]
    cases negative <;> simp
  case neg =>
    obtain ⟨j, rfl⟩ : ∃ j : ℕ, e = -j := ⟨(-e).toNat, by omega⟩
    have hm := mantissa_eq_mul_two_pow hk
    have hunit : ((2 ^ j : ℕ) : ℤ) ≠ 0 := by positivity
    rw [if_neg he, Int.neg_neg, Int.toNat_natCast, hm, Nat.mul_mod_left, if_pos rfl]
    cases negative
    · simp
    · simp [← neg_mul]

-- Half a unit of the last place.
theorem IsNear.abs_sub_le (h : IsNear v m e) : |m * 2 ^ e - v| ≤ 2 ^ e / 2 := by
  have hunit : (0 : ℚ) < 2 ^ e := by positivity
  have hgap : gapBelow m e * 2 ^ e ≤ 1 / 2 * 2 ^ e := by gcongr; exact gapBelow_le m e
  have hlow := h.low
  have hhigh := h.high
  rw [abs_le]
  constructor <;> linarith

theorem IsNear.exponent_le {j : ℤ} (h : IsNear v m e) (hnormal : IsNormal m e) (hv : v < 2 ^ j)
    (hj : -1022 ≤ j) : e ≤ j - 52 := by
  obtain hleading | hleast := hnormal.leading
  · have hm : (2 ^ 52 : ℚ) ≤ m := by
      rw [← cast_leadingBit]
      exact_mod_cast hleading
    have hgap := gapBelow_le m e
    have hpow : (2 : ℚ) ^ (51 + e) < 2 ^ j := by
      calc (2 : ℚ) ^ (51 + e) = 2 ^ 51 * 2 ^ e := zpow_add₀ two_ne_zero _ _
        _ ≤ (m - gapBelow m e) * 2 ^ e := by gcongr; linarith
        _ ≤ v := h.low
        _ < 2 ^ j := hv
    have := (zpow_lt_zpow_iff_right₀ one_lt_two).1 hpow
    omega
  · omega

theorem nat_eq_of_abs_sub_lt {j : ℕ} (h : |(j : ℚ) - k| < 1) : j = k := by
  rw [abs_lt] at h
  have h₁ : (j : ℚ) < (k + 1 : ℕ) := by push_cast; linarith
  have h₂ : (k : ℚ) < (j + 1 : ℕ) := by push_cast; linarith
  have h₁ : j < k + 1 := by exact_mod_cast h₁
  have h₂ : k < j + 1 := by exact_mod_cast h₂
  omega

section Digits

-- `n` with its leading 53 binary digits, rounded to the even side where two are as near.
def nearestWhole (n : ℕ) : ℕ :=
  divideToEven n (2 ^ (n.log2 - 52)) * 2 ^ (n.log2 - 52)

-- The binary digits of `n` past the leading 53 are zeros.
def IsShort (n : ℕ) : Prop :=
  2 ^ (n.log2 - 52) ∣ n

theorem divideToEven_bounds {a b : ℕ} (hb : 0 < b) :
    2 * (b * divideToEven a b) ≤ 2 * a + b ∧ 2 * a ≤ 2 * (b * divideToEven a b) + b ∧
      (divideToEven a b % 2 = 1 → 2 * (b * divideToEven a b) < 2 * a + b ∧
        2 * a < 2 * (b * divideToEven a b) + b) := by
  have hdivision := Nat.div_add_mod a b
  have hrest := Nat.mod_lt a hb
  simp only [divideToEven]
  generalize a / b = quotient at *
  generalize a % b = rest at *
  have hnext : b * (quotient + 1) = b * quotient + b := Nat.mul_succ _ _
  split
  case isTrue h => omega
  case isFalse h =>
    rw [hnext]
    omega

theorem roundsTo_divideToEven {a b : ℕ} (hb : 0 < b) : RoundsTo (a / b) (divideToEven a b) := by
  obtain ⟨hlow, hhigh, hodd⟩ := divideToEven_bounds (a := a) hb
  have hb' : (0 : ℚ) < b := by exact_mod_cast hb
  constructor
  · have hlow : (2 * (b * divideToEven a b) : ℚ) ≤ 2 * a + b := by exact_mod_cast hlow
    rw [le_div_iff₀ hb']
    linarith
  · have hhigh : (2 * a : ℚ) ≤ 2 * (b * divideToEven a b) + b := by exact_mod_cast hhigh
    rw [div_le_iff₀ hb']
    linarith
  · intro h
    obtain ⟨hlow, hhigh⟩ := hodd h
    have hlow : (2 * (b * divideToEven a b) : ℚ) < 2 * a + b := by exact_mod_cast hlow
    have hhigh : (2 * a : ℚ) < 2 * (b * divideToEven a b) + b := by exact_mod_cast hhigh
    rw [lt_div_iff₀ hb', div_lt_iff₀ hb']
    constructor <;> linarith

theorem two_pow_dvd_mul {n : ℕ} (h : IsShort n) : 2 ^ n.log2 ∣ n * 2 ^ 52 := by
  calc 2 ^ n.log2 ∣ 2 ^ (n.log2 - 52 + 52) := pow_dvd_pow 2 (by omega)
    _ = 2 ^ (n.log2 - 52) * 2 ^ 52 := pow_add _ _ _
    _ ∣ n * 2 ^ 52 := mul_dvd_mul_right h _

theorem isShort_mul_two_pow (hm : m ≤ 2 * leadingBit) (j : ℕ) : IsShort (m * 2 ^ j) := by
  by_cases hzero : m = 0
  case pos => simp [hzero, IsShort]
  case neg =>
    rw [IsShort, log2_mul_two_pow hzero]
    obtain hlt | rfl := hm.lt_or_eq
    · have hlog : m.log2 < 53 := (Nat.log2_lt hzero).2 hlt
      exact (pow_dvd_pow 2 (by omega)).trans (dvd_mul_left _ _)
    · have hpower : 2 * leadingBit = 2 ^ 53 := rfl
      rw [hpower, Nat.log2_two_pow, ← pow_add]
      exact pow_dvd_pow 2 (by omega)

theorem isShort_of_le {n : ℕ} (h : n ≤ 2 * leadingBit) : IsShort n := by
  simpa using isShort_mul_two_pow h 0

theorem isShort_of_log2_lt {n : ℕ} (h : n.log2 < 53) : IsShort n := by
  rw [IsShort, Nat.sub_eq_zero_of_le (Nat.lt_succ_iff.1 h)]
  exact one_dvd n

theorem exists_normal_of_isShort {n : ℕ} (h : IsShort n) :
    ∃ m e, IsNormal m e ∧ (n : ℚ) = m * 2 ^ e := by
  by_cases hzero : n = 0
  case pos => exact ⟨0, -1074, ⟨by decide, le_rfl, .inr rfl⟩, by simp [hzero]⟩
  case neg =>
    obtain ⟨m, hm⟩ := two_pow_dvd_mul h
    have hlow : 2 ^ n.log2 * 2 ^ 52 ≤ 2 ^ n.log2 * m := by
      rw [← hm]
      exact Nat.mul_le_mul_right _ (Nat.log2_self_le hzero)
    have hhigh : 2 ^ n.log2 * m < 2 ^ n.log2 * 2 ^ 53 := by
      rw [← hm, ← pow_add, show n.log2 + 53 = n.log2 + 1 + 52 from rfl, pow_add]
      exact Nat.mul_lt_mul_of_pos_right Nat.lt_log2_self (by positivity)
    refine ⟨m, n.log2 - 52, ⟨Nat.lt_of_mul_lt_mul_left hhigh, by omega,
      .inl (Nat.le_of_mul_le_mul_left hlow (by positivity))⟩, ?_⟩
    have hm : (n * 2 ^ 52 : ℚ) = 2 ^ n.log2 * m := by exact_mod_cast hm
    rw [zpow_sub₀ two_ne_zero, zpow_natCast, ← mul_div_assoc, mul_comm (m : ℚ), ← hm]
    exact (mul_div_cancel_right₀ (n : ℚ) (by positivity)).symm

theorem divideToEven_mul_of_dvd {a b : ℕ} (hb : 0 < b) (h : b ∣ a) : divideToEven a b * b = a := by
  obtain ⟨q, rfl⟩ := h
  have hq : divideToEven (b * q) b = q := divideToEven_eq_of_le hb (by omega) (by omega) (by omega)
  rw [hq, Nat.mul_comm]

theorem nearestWhole_of_isShort {n : ℕ} (h : IsShort n) : nearestWhole n = n :=
  divideToEven_mul_of_dvd (by positivity) h

theorem nearestWhole_bounds {n : ℕ} (h : 52 ≤ n.log2) :
    2 ^ 52 ≤ (n / 2 ^ ((n.log2 - 52 : ℕ) : ℤ) : ℚ) ∧
      (n / 2 ^ ((n.log2 - 52 : ℕ) : ℤ) : ℚ) < 2 ^ 53 := by
  have hn : n ≠ 0 := by
    rintro rfl
    exact absurd h (by decide)
  obtain ⟨j, hj⟩ := Nat.exists_eq_add_of_le' h
  have hlow : 2 ^ (j + 52) ≤ n := hj ▸ Nat.log2_self_le hn
  have hhigh : n < 2 ^ (j + 52 + 1) := hj ▸ Nat.lt_log2_self
  rw [pow_add] at hlow
  rw [Nat.add_assoc, pow_add] at hhigh
  have hunit : (0 : ℚ) < 2 ^ j := by positivity
  rw [hj, Nat.add_sub_cancel, zpow_natCast, le_div_iff₀ hunit, div_lt_iff₀ hunit, mul_comm,
    mul_comm (2 ^ 53)]
  exact_mod_cast And.intro hlow hhigh

theorem roundsTo_nearestWhole (n : ℕ) :
    RoundsTo (n / 2 ^ ((n.log2 - 52 : ℕ) : ℤ)) (divideToEven n (2 ^ (n.log2 - 52))) := by
  have h := roundsTo_divideToEven (a := n) (b := 2 ^ (n.log2 - 52)) (by positivity)
  rwa [Nat.cast_pow, Nat.cast_ofNat, ← zpow_natCast] at h

theorem isShort_nearestWhole (n : ℕ) : IsShort (nearestWhole n) := by
  by_cases hlog : 52 ≤ n.log2
  case pos =>
    exact isShort_mul_two_pow ((roundsTo_nearestWhole n).le_of_lt (nearestWhole_bounds hlog).2) _
  case neg =>
    have hshort : IsShort n := isShort_of_log2_lt (by omega)
    rwa [nearestWhole_of_isShort hshort]

theorem exists_isNear_nearestWhole (n : ℕ) :
    ∃ m e, IsNormal m e ∧ IsNear n m e ∧ (nearestWhole n : ℚ) = m * 2 ^ e := by
  by_cases hlog : 52 ≤ n.log2
  case pos =>
    have hrounds := roundsTo_nearestWhole n
    obtain ⟨hlow, hhigh⟩ := nearestWhole_bounds hlog
    obtain ⟨hnormal, hnear⟩ := hrounds.isNear_carried hhigh (.inr hlow) (by omega)
    refine ⟨_, _, hnormal, hnear, ?_⟩
    rw [hrounds.carried_value hhigh, zpow_natCast]
    exact_mod_cast rfl
  case neg =>
    have hshort : IsShort n := isShort_of_log2_lt (by omega)
    obtain ⟨m, e, hnormal, hn⟩ := exists_normal_of_isShort hshort
    refine ⟨m, e, hnormal, ?_, by rw [nearestWhole_of_isShort hshort, hn]⟩
    rw [hn]
    exact isNear_of_le le_rfl (lt_add_of_pos_right _ (by positivity))

theorem le_two_mul_nearestWhole (n : ℕ) : n ≤ 2 * nearestWhole n := by
  by_cases hn : n = 0
  case pos => simp [hn]
  case neg =>
    have hhigh := (divideToEven_bounds (a := n) (b := 2 ^ (n.log2 - 52)) (by positivity)).2.1
    have hunit : 2 ^ (n.log2 - 52) ≤ n :=
      (Nat.pow_le_pow_right (by decide) (Nat.sub_le _ _)).trans (Nat.log2_self_le hn)
    rw [nearestWhole, Nat.mul_comm (divideToEven _ _)]
    omega

end Digits

end Rulebook.Number
