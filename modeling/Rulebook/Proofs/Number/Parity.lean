import Rulebook.Proofs.Number.Conversion
import Rulebook.Proofs.Number.Differences

/-!
Halves of whole numbers. The remainder after division by two is exact for every whole number: an
even one has a half without rest, and an odd one is short enough for its half and the differences.
-/

namespace Rulebook.Number

variable {x : Float} {s : Bool} {m j k num den : ℕ} {e : ℤ} {n : ℤ}

theorem parts_two : parts 2 = .finite false leadingBit (-51) := by
  decide

theorem value_two : (leadingBit * 2 ^ (-51 : ℤ) : ℚ) = 2 := by
  rw [cast_leadingBit]
  norm_num

theorem div_two_eq_ofRatio (hx : parts x = .finite s m e) (hd : 0 < den)
    (h : (num / den : ℚ) = m * 2 ^ e / 2) : x / 2 = ofRatio s num den := by
  have hquotient := div_eq_ofRatio hx parts_two hd (by decide) (by rw [h, value_two])
  rwa [Bool.xor_false] at hquotient

theorem two_mul_eq_ofRatio (hx : parts x = .finite s m e) (hk : (k : ℚ) = m * 2 ^ e) :
    2 * x = ofRatio s (2 * k) 1 := by
  have hratio : ((2 * k : ℕ) / (1 : ℕ) : ℚ) = leadingBit * 2 ^ (-51 : ℤ) * (m * 2 ^ e) := by
    rw [value_two, ← hk]
    push_cast
    ring
  have hproduct := mul_eq_ofRatio parts_two hx Nat.one_pos hratio
  rwa [Bool.false_xor] at hproduct

theorem exists_parts_of_isShort (hk : IsShort k) (hlt : (k : ℚ) < 2 ^ (1023 : ℤ)) (s : Bool) :
    ∃ m e, parts (ofRatio s k 1) = .finite s m e ∧ (k : ℚ) = m * 2 ^ e := by
  obtain ⟨m, e, hnormal, hvalue⟩ := exists_normal_of_isShort hk
  have hnear : IsNear k m e := by
    rw [hvalue]
    exact isNear_of_le le_rfl (lt_add_of_pos_right _ (by positivity))
  have he : e ≤ 971 := by
    have hle := hnear.exponent_le hnormal hlt (by omega)
    omega
  exact ⟨m, e, by rw [hnear.parts_ofRatio_one hnormal, if_pos he], hvalue⟩

theorem exists_parts_of_le (hk : k ≤ 2 * leadingBit) (s : Bool) :
    ∃ m e, parts (ofRatio s k 1) = .finite s m e ∧ (k : ℚ) = m * 2 ^ e := by
  refine exists_parts_of_isShort (isShort_of_le hk) ?_ s
  calc (k : ℚ) ≤ (2 * leadingBit : ℕ) := by exact_mod_cast hk
    _ = 2 ^ (53 : ℤ) := by norm_num [leadingBit]
    _ < 2 ^ (1023 : ℤ) := zpow_lt_zpow_right₀ one_lt_two (by omega)

section Even

variable (hx : parts x = .finite s m e) (hk : ((2 * j : ℕ) : ℚ) = m * 2 ^ e)
include hx hk

theorem isShort_half : IsShort j := by
  obtain he | he := le_or_gt e 0
  · have hle : (2 * j : ℕ) ≤ m := by
      have hunit : (2 : ℚ) ^ e ≤ 1 := zpow_le_one_of_nonpos₀ one_le_two he
      have hvalue : ((2 * j : ℕ) : ℚ) ≤ m := by
        rw [hk]
        exact mul_le_of_le_one_right (by positivity) hunit
      exact_mod_cast hvalue
    have hlt := (parts_eq_finite hx).2.2.1.lt
    exact isShort_of_le (by omega)
  · obtain ⟨i, rfl⟩ : ∃ i : ℕ, e = i + 1 := ⟨(e - 1).toNat, by omega⟩
    have hj : j = m * 2 ^ i := by
      rw [zpow_add_one₀ two_ne_zero, zpow_natCast] at hk
      have hvalue : (j : ℚ) = (m * 2 ^ i : ℕ) := by
        push_cast at hk ⊢
        linarith
      exact_mod_cast hvalue
    rw [hj]
    exact isShort_mul_two_pow (parts_eq_finite hx).2.2.1.lt.le i

theorem half_lt : (j : ℚ) < 2 ^ (1023 : ℤ) := by
  obtain ⟨-, -, hnormal, he, -⟩ := parts_eq_finite hx
  have hm : (m : ℚ) < 2 ^ (53 : ℤ) := by
    calc (m : ℚ) < (2 * leadingBit : ℕ) := by exact_mod_cast hnormal.lt
      _ = 2 ^ (53 : ℤ) := by norm_num [leadingBit]
  have hlt : ((2 * j : ℕ) : ℚ) < 2 * 2 ^ (1023 : ℤ) := by
    calc ((2 * j : ℕ) : ℚ) = m * 2 ^ e := hk
      _ ≤ m * 2 ^ (971 : ℤ) := by gcongr; exact one_le_two
      _ < 2 ^ (53 : ℤ) * 2 ^ (971 : ℤ) := by gcongr
      _ = 2 ^ (1023 + 1 : ℤ) := (zpow_add₀ two_ne_zero _ _).symm
      _ = 2 * 2 ^ (1023 : ℤ) := by rw [zpow_add_one₀ two_ne_zero, mul_comm]
  rw [Nat.cast_mul, Nat.cast_ofNat] at hlt
  exact lt_of_mul_lt_mul_left hlt zero_le_two

theorem sub_two_mul_floor_of_even : x - 2 * floor (x / 2) = 0 := by
  obtain ⟨m', e', hparts, hj⟩ := exists_parts_of_isShort (isShort_half hx hk) (half_lt hx hk) s
  have hhalf : x / 2 = ofRatio s j 1 := by
    apply div_two_eq_ofRatio hx Nat.one_pos
    rw [← hk]
    push_cast
    ring
  rw [hhalf, floor_of_toInt? (toInt?_of_parts hparts hj), two_mul_eq_ofRatio hparts hj,
    ofRatio_of_parts hx hk, sub_self_of_parts hx]

end Even

section Odd

variable (hx : parts x = .finite s m e) (hk : ((2 * j + 1 : ℕ) : ℚ) = m * 2 ^ e)
include hx hk

-- An odd number has a mantissa with places behind the point, and all of its digits.
theorem exists_mantissa_of_odd :
    ∃ i : ℕ, e = -i ∧ m = (2 * j + 1) * 2 ^ i ∧ IsNormal m (e - 1) := by
  obtain ⟨-, -, ⟨hlt, hleast, hleading⟩, -, -⟩ := parts_eq_finite hx
  have he : e ≤ 0 := by
    by_contra he
    obtain ⟨i, rfl⟩ : ∃ i : ℕ, e = i + 1 := ⟨(e - 1).toNat, by omega⟩
    rw [zpow_add_one₀ two_ne_zero, zpow_natCast] at hk
    have heven : 2 * j + 1 = 2 * (m * 2 ^ i) := by
      have hvalue : ((2 * j + 1 : ℕ) : ℚ) = (2 * (m * 2 ^ i) : ℕ) := by
        rw [hk]
        push_cast
        ring
      exact_mod_cast hvalue
    omega
  obtain ⟨i, rfl⟩ : ∃ i : ℕ, e = -i := ⟨(-e).toNat, by omega⟩
  have hm := mantissa_eq_mul_two_pow hk
  have hi : i < 53 := by
    have hpow : 2 ^ i < 2 ^ 53 := by
      calc 2 ^ i ≤ (2 * j + 1) * 2 ^ i := Nat.le_mul_of_pos_left _ (by omega)
        _ = m := hm.symm
        _ < 2 ^ 53 := hlt
    exact (Nat.pow_lt_pow_iff_right (by decide)).1 hpow
  exact ⟨i, rfl, hm, hlt, by omega, .inl (hleading.resolve_right (by omega))⟩

theorem odd_lt : 2 * j + 1 < 2 * leadingBit := by
  obtain ⟨i, -, hm, hnormal⟩ := exists_mantissa_of_odd hx hk
  calc 2 * j + 1 ≤ (2 * j + 1) * 2 ^ i := Nat.le_mul_of_pos_right _ (by positivity)
    _ = m := hm.symm
    _ < 2 * leadingBit := hnormal.lt

theorem floor_half_of_odd : floor (x / 2) = ofRatio s (if s then j + 1 else j) 1 := by
  obtain ⟨i, rfl, hm, hnormal⟩ := exists_mantissa_of_odd hx hk
  have hvalue : ((2 * j + 1 : ℕ) / (2 : ℕ) : ℚ) = m * 2 ^ (-i - 1 : ℤ) := by
    rw [hk, zpow_sub_one₀ two_ne_zero]
    push_cast
    ring
  have hhalf : x / 2 = ofRatio s (2 * j + 1) 2 := by
    apply div_two_eq_ofRatio hx Nat.two_pos
    rw [hk]
    rfl
  have hnear : IsNear ((2 * j + 1 : ℕ) / (2 : ℕ)) m (-i - 1) := by
    rw [hvalue]
    exact isNear_of_le le_rfl (lt_add_of_pos_right _ (by positivity))
  have hparts := parts_ofRatio s hnear hnormal Nat.two_pos
  rw [if_pos (by omega), ← hhalf] at hparts
  have hunit : (-(-i - 1 : ℤ)).toNat = i + 1 := by omega
  have hsplit : m = 2 ^ (i + 1) * j + 2 ^ i := by
    rw [hm]
    ring
  have hrest : 2 ^ i < 2 ^ (i + 1) := Nat.pow_lt_pow_succ (by decide)
  have hwhole : m / 2 ^ (i + 1) = j := by
    rw [hsplit, Nat.mul_add_div (by positivity), Nat.div_eq_of_lt hrest, Nat.add_zero]
  have hmod : m % 2 ^ (i + 1) = 2 ^ i := by
    rw [hsplit, Nat.mul_add_mod, Nat.mod_eq_of_lt hrest]
  have hne : (2 ^ i != 0) = true := bne_iff_ne.2 (by positivity)
  simp only [floor, toWholeBy, hparts, Nat.pow_eq, hunit, hwhole, hmod, hne, Bool.and_true]
  rw [if_neg (by omega)]

theorem sub_two_mul_floor_of_odd : x - 2 * floor (x / 2) = 1 := by
  have hlt := odd_lt hx hk
  obtain ⟨i, -, hm, -⟩ := exists_mantissa_of_odd hx hk
  have hm₀ : m ≠ 0 := by
    rw [hm]
    positivity
  obtain ⟨q, hq⟩ : ∃ q, (if s then j + 1 else j) = q := ⟨_, rfl⟩
  have hqle : 2 * q ≤ 2 * leadingBit := by
    rw [← hq]
    split <;> omega
  obtain ⟨m', e', hparts, hvalue⟩ := exists_parts_of_le (by omega : q ≤ 2 * leadingBit) s
  obtain ⟨m'', e'', hparts', hvalue'⟩ := exists_parts_of_le hqle s
  have hone : ofRatio false 1 1 = 1 := by decide
  rw [floor_half_of_odd hx hk, hq, two_mul_eq_ofRatio hparts hvalue, ← hone]
  refine sub_eq_ofRatio hx hparts' hm₀ Nat.one_pos one_ne_zero ?_
  subst hq
  cases s
  all_goals
    simp only [signed, Bool.false_eq_true, ↓reduceIte] at hvalue' ⊢
    push_cast at *
    linarith

end Odd

theorem sub_two_mul_floor (h : toInt? x = some n) : x - 2 * floor (x / 2) = ofInt (n % 2) := by
  obtain ⟨s, m, e, hx⟩ := exists_parts_of_toInt? h
  obtain ⟨k, rfl, hk⟩ := toInt?_eq_some hx h
  have hzero : ofInt 0 = 0 := by decide
  have hone : ofInt 1 = 1 := by decide
  obtain ⟨j, rfl | rfl⟩ := k.even_or_odd'
  · have hmod : (if s then -((2 * j : ℕ) : ℤ) else (2 * j : ℕ)) % 2 = 0 := by split <;> omega
    rw [hmod, hzero, sub_two_mul_floor_of_even hx hk]
  · have hmod : (if s then -((2 * j + 1 : ℕ) : ℤ) else (2 * j + 1 : ℕ)) % 2 = 1 := by
      split <;> omega
    rw [hmod, hone, sub_two_mul_floor_of_odd hx hk]

-- All numbers of more than 53 binary digits are even.
theorem two_dvd_of_toInt? (h : toInt? x = some n) (hn : 2 * leadingBit ≤ n.natAbs) : 2 ∣ n := by
  obtain ⟨s, m, e, hx⟩ := exists_parts_of_toInt? h
  obtain ⟨k, rfl, hk⟩ := toInt?_eq_some hx h
  obtain ⟨j, rfl | rfl⟩ := k.even_or_odd'
  · split <;> omega
  · have hlt := odd_lt hx hk
    split at hn <;> omega

end Rulebook.Number
