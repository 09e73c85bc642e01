import Rulebook.Number.Shortest
import Rulebook.Proofs.Number.Bits

/-!
The ratios that round to a number are those between its neighbours, up to the middle on either side.
-/

namespace Rulebook.Number

variable {num den m : ℕ} {e : ℤ} {x : Float} {negative : Bool}

-- The mantissa has 53 digits, or fewer at the least exponent.
structure IsNormal (m : ℕ) (e : ℤ) : Prop where
  lt : m < 2 * leadingBit
  exponent : -1074 ≤ e
  leading : leadingBit ≤ m ∨ e = -1074

theorem parts_eq_finite (h : parts x = .finite negative m e) : isNegative x = negative ∧
    isUndefined x = false ∧ IsNormal m e ∧ e ≤ 971 ∧
      magnitudeBits x = (e + 1074).toNat * leadingBit + m := by
  have hu : isUndefined x = false := by rw [isUndefined, h]; rfl
  have hle := magnitudeBits_le hu
  simp only [parts] at h
  split at h
  case isTrue => split at h <;> cases h
  case isFalse h' =>
    have hmod := Nat.div_add_mod (magnitudeBits x) leadingBit
    have hlt : magnitudeBits x % leadingBit < leadingBit := Nat.mod_lt _ (by decide)
    split at h
    case isTrue h₀ =>
      cases h
      refine ⟨rfl, hu, ⟨by omega, by omega, .inr rfl⟩, by omega, ?_⟩
      simp only [leadingBit] at *
      omega
    case isFalse h₀ =>
      cases h
      refine ⟨rfl, hu, ⟨by omega, ?_, .inl (by omega)⟩, ?_, ?_⟩ <;>
        simp only [leadingBit] at *
      · omega
      · omega
      · omega

-- From the mantissa down to the middle below it. Below a power of two the neighbour is nearer.
def gapBelow (m : ℕ) (e : ℤ) : ℚ :=
  if m = leadingBit ∧ -1074 < e then 1 / 4 else 1 / 2

-- `v` is between the middles around `m * 2 ^ e`, which belong to the even mantissas.
structure IsNear (v : ℚ) (m : ℕ) (e : ℤ) : Prop where
  low : (m - gapBelow m e) * 2 ^ e ≤ v
  high : v ≤ (m + 1 / 2) * 2 ^ e
  odd : m % 2 = 1 → (m - gapBelow m e) * 2 ^ e < v ∧ v < (m + 1 / 2) * 2 ^ e

section Division

theorem cast_div_lt_iff {a b k : ℕ} (hb : 0 < b) : a / b < k ↔ (a / b : ℚ) < k := by
  rw [Nat.div_lt_iff_lt_mul hb, div_lt_iff₀ (by exact_mod_cast hb)]
  exact_mod_cast Iff.rfl

theorem divideToEven_eq_of_le {a b q : ℕ} (hb : 0 < b) (hlow : 2 * (b * q) ≤ 2 * a + b)
    (hhigh : 2 * a ≤ 2 * (b * q) + b)
    (hodd : q % 2 = 1 → 2 * (b * q) < 2 * a + b ∧ 2 * a < 2 * (b * q) + b) :
    divideToEven a b = q := by
  have ha := Nat.div_add_mod a b
  have hrest := Nat.mod_lt a hb
  have hquotient : a / b = q ∨ a / b + 1 = q := by
    have h₁ : b * (2 * (a / b)) < b * (2 * q + 2) := by linarith [Nat.zero_le (a % b)]
    have h₂ : b * (2 * q) < b * (2 * (a / b) + 3) := by linarith
    have := Nat.lt_of_mul_lt_mul_left h₁
    have := Nat.lt_of_mul_lt_mul_left h₂
    omega
  simp only [divideToEven]
  obtain hq | hq := hquotient
  · rw [hq] at ha ⊢
    rw [if_pos (by omega)]
  · have hmul : b * q = b * (a / b) + b := by rw [← hq]; ring
    rw [if_neg (by omega), hq]

theorem divideToEven_eq {a b q : ℕ} (hb : 0 < b) (hlow : (q - 1 / 2 : ℚ) ≤ a / b)
    (hhigh : (a / b : ℚ) ≤ q + 1 / 2)
    (hodd : q % 2 = 1 → (q - 1 / 2 : ℚ) < a / b ∧ (a / b : ℚ) < q + 1 / 2) :
    divideToEven a b = q := by
  have hb' : (0 : ℚ) < b := by exact_mod_cast hb
  rw [le_div_iff₀ hb'] at hlow
  rw [div_le_iff₀ hb'] at hhigh
  rw [lt_div_iff₀ hb', div_lt_iff₀ hb'] at hodd
  refine divideToEven_eq_of_le hb ?_ ?_ fun hq => ⟨?_, ?_⟩
  · have : (2 * (b * q) : ℚ) ≤ 2 * a + b := by linarith
    exact_mod_cast this
  · have : (2 * a : ℚ) ≤ 2 * (b * q) + b := by linarith
    exact_mod_cast this
  · have : (2 * (b * q) : ℚ) < 2 * a + b := by linarith [(hodd hq).1]
    exact_mod_cast this
  · have : (2 * a : ℚ) < 2 * (b * q) + b := by linarith [(hodd hq).2]
    exact_mod_cast this

end Division

theorem cast_leadingBit : (leadingBit : ℚ) = 2 ^ 52 := by
  norm_num [leadingBit]

theorem scaleDown_pos (hd : 0 < den) : 0 < (scaleDown num den e).2 := by
  simp only [scaleDown, Nat.pow_eq]
  split
  · positivity
  · exact hd

theorem cast_scaleDown :
    ((scaleDown num den e).1 / (scaleDown num den e).2 : ℚ) = num / den / 2 ^ e := by
  simp only [scaleDown, Nat.pow_eq]
  split
  case isTrue he =>
    obtain ⟨k, rfl⟩ := Int.eq_ofNat_of_zero_le he
    simp [div_div]
  case isFalse he =>
    obtain ⟨k, rfl⟩ : ∃ k : ℕ, e = -k := ⟨(-e).toNat, by omega⟩
    simp
    ring

theorem scaleDown_lt_iff (hd : 0 < den) :
    (scaleDown num den e).1 / (scaleDown num den e).2 < 2 * leadingBit ↔
      (num / den / 2 ^ e : ℚ) < 2 ^ 53 := by
  rw [cast_div_lt_iff (scaleDown_pos hd), cast_scaleDown]
  norm_num [leadingBit]

theorem div_zpow_sub_one (v : ℚ) (e : ℤ) : v / 2 ^ (e - 1) = 2 * (v / 2 ^ e) := by
  rw [zpow_sub_one₀ two_ne_zero]
  field_simp

theorem log2_bounds (hn : num ≠ 0) (hd : den ≠ 0) :
    (2 : ℚ) ^ ((num.log2 : ℤ) - den.log2 - 1) < num / den ∧
      (num / den : ℚ) < 2 ^ ((num.log2 : ℤ) - den.log2 + 1) := by
  have hd' : (0 : ℚ) < den := by exact_mod_cast Nat.pos_of_ne_zero hd
  have h₁ : (2 : ℚ) ^ (num.log2 : ℤ) ≤ num := by exact_mod_cast Nat.log2_self_le hn
  have h₂ : (num : ℚ) < 2 ^ ((num.log2 : ℤ) + 1) := by exact_mod_cast Nat.lt_log2_self
  have h₃ : (2 : ℚ) ^ (den.log2 : ℤ) ≤ den := by exact_mod_cast Nat.log2_self_le hd
  have h₄ : (den : ℚ) < 2 ^ ((den.log2 : ℤ) + 1) := by exact_mod_cast Nat.lt_log2_self
  constructor
  · rw [lt_div_iff₀ hd']
    calc (2 : ℚ) ^ ((num.log2 : ℤ) - den.log2 - 1) * den
        < 2 ^ ((num.log2 : ℤ) - den.log2 - 1) * 2 ^ ((den.log2 : ℤ) + 1) := by gcongr
      _ = 2 ^ (num.log2 : ℤ) := by rw [← zpow_add₀ two_ne_zero]; congr 1; omega
      _ ≤ num := h₁
  · rw [div_lt_iff₀ hd']
    calc (num : ℚ) < 2 ^ ((num.log2 : ℤ) + 1) := h₂
      _ = 2 ^ ((num.log2 : ℤ) - den.log2 + 1) * 2 ^ (den.log2 : ℤ) := by
        rw [← zpow_add₀ two_ne_zero]; congr 1; omega
      _ ≤ 2 ^ ((num.log2 : ℤ) - den.log2 + 1) * den := by gcongr

-- The exponent is the only one that leaves 53 binary digits, but for the least one.
theorem ratioExponent_eq (hn : num ≠ 0) (hd : 0 < den) (he : -1074 ≤ e)
    (hlt : (num / den / 2 ^ e : ℚ) < 2 ^ 53)
    (hle : e = -1074 ∨ (2 : ℚ) ^ 52 ≤ num / den / 2 ^ e) : ratioExponent num den = e := by
  obtain ⟨hlow, hhigh⟩ := log2_bounds hn hd.ne'
  have hpow (k : ℕ) : (2 : ℚ) ^ k * 2 ^ e = 2 ^ (e + k) := by
    rw [zpow_add₀ two_ne_zero, zpow_natCast, mul_comm]
  have h₁ : (num.log2 : ℤ) - den.log2 - 1 < e + 53 := by
    rw [div_lt_iff₀ (by positivity), hpow] at hlt
    exact (zpow_lt_zpow_iff_right₀ one_lt_two).1 (hlow.trans hlt)
  have h₂ : e = -1074 ∨ e + 52 < (num.log2 : ℤ) - den.log2 + 1 := by
    rw [le_div_iff₀ (by positivity), hpow] at hle
    exact hle.imp_right fun h => (zpow_lt_zpow_iff_right₀ one_lt_two).1 (h.trans_lt hhigh)
  have hstart : max (-1074) ((num.log2 : ℤ) - den.log2 - 53) = e ∨
      (max (-1074) ((num.log2 : ℤ) - den.log2 - 53) = e - 1 ∧ e ≠ -1074) := by
    omega
  simp only [ratioExponent]
  obtain hstart | ⟨hstart, hne⟩ := hstart
  · rw [hstart, if_pos ((scaleDown_lt_iff hd).2 hlt)]
  · have hge : ¬(num / den / 2 ^ (e - 1) : ℚ) < 2 ^ 53 := by
      rw [div_zpow_sub_one]
      linarith [hle.resolve_left hne]
    rw [hstart, if_neg (mt (scaleDown_lt_iff hd).1 hge), Int.sub_add_cancel]

theorem gapBelow_le (m : ℕ) (e : ℤ) : gapBelow m e ≤ 1 / 2 := by
  rw [gapBelow]
  split <;> norm_num

namespace IsNear

theorem scaled {v : ℚ} (h : IsNear v m e) : m - gapBelow m e ≤ v / 2 ^ e ∧
    v / 2 ^ e ≤ m + 1 / 2 ∧ (m % 2 = 1 → m - gapBelow m e < v / 2 ^ e ∧ v / 2 ^ e < m + 1 / 2) := by
  have hunit : (0 : ℚ) < 2 ^ e := by positivity
  rw [le_div_iff₀ hunit, div_le_iff₀ hunit, lt_div_iff₀ hunit, div_lt_iff₀ hunit]
  exact ⟨h.low, h.high, h.odd⟩

-- At a power of two the ratios below the number have one digit more, and are rounded up to it.
theorem round_below (h : IsNear (num / den) leadingBit e) (hn : num ≠ 0) (hd : 0 < den)
    (he : -1074 < e) (hlt : (num / den / 2 ^ e : ℚ) < leadingBit) :
    ratioExponent num den = e - 1 ∧
      divideToEven (scaleDown num den (e - 1)).1 (scaleDown num den (e - 1)).2 = 2 * leadingBit := by
  obtain ⟨hlow, -, -⟩ := h.scaled
  rw [gapBelow, if_pos ⟨rfl, he⟩] at hlow
  rw [cast_leadingBit] at hlow hlt
  constructor
  · refine ratioExponent_eq hn hd (by omega) ?_ (.inr ?_) <;> rw [div_zpow_sub_one] <;> linarith
  · refine divideToEven_eq (scaleDown_pos hd) ?_ ?_ (fun hodd => absurd hodd (by decide)) <;>
      rw [cast_scaleDown, div_zpow_sub_one, Nat.cast_mul, cast_leadingBit, Nat.cast_ofNat] <;>
      linarith

theorem round_self (h : IsNear (num / den) m e) (hnormal : IsNormal m e) (hn : num ≠ 0)
    (hd : 0 < den) (hge : m = leadingBit → -1074 < e → (m : ℚ) ≤ num / den / 2 ^ e) :
    ratioExponent num den = e ∧
      divideToEven (scaleDown num den e).1 (scaleDown num den e).2 = m := by
  obtain ⟨hlow, hhigh, hodd⟩ := h.scaled
  have hgap := gapBelow_le m e
  constructor
  · refine ratioExponent_eq hn hd hnormal.exponent ?_ ?_
    · have hm : (m + 1 : ℚ) ≤ 2 * leadingBit := by exact_mod_cast hnormal.lt
      rw [cast_leadingBit] at hm
      linarith
    · refine (eq_or_ne e (-1074)).imp_right fun he => ?_
      have hlt : -1074 < e := lt_of_le_of_ne hnormal.exponent he.symm
      rw [← cast_leadingBit]
      obtain hm | hm := (hnormal.leading.resolve_right he).eq_or_lt
      · exact hm ▸ hge hm.symm hlt
      · have hm' : (leadingBit + 1 : ℚ) ≤ m := by exact_mod_cast hm
        linarith
  · refine divideToEven_eq (scaleDown_pos hd) ?_ ?_ fun hm => ?_ <;> rw [cast_scaleDown]
    · linarith
    · exact hhigh
    · exact ⟨by linarith [(hodd hm).1], (hodd hm).2⟩

theorem ofRatio_eq (h : IsNear (num / den) m e) (hnormal : IsNormal m e) (hd : 0 < den)
    (negative : Bool) : ofRatio negative num den =
      ofMagnitudeBits negative (min ((e + 1074).toNat * leadingBit + m) (2047 * leadingBit)) := by
  simp only [ofRatio]
  by_cases hn : num = 0
  case pos =>
    have hm : m = 0 := by
      have hgap := gapBelow_le m e
      obtain ⟨hlow, -⟩ := h.scaled
      rw [hn, Nat.cast_zero, zero_div, zero_div] at hlow
      have hlt : (m : ℚ) < 1 := by linarith
      exact Nat.lt_one_iff.1 (by exact_mod_cast hlt)
    have he := hnormal.leading.resolve_left (by rw [hm]; decide)
    rw [if_pos hn, hm, he]
    rfl
  case neg =>
    rw [if_neg hn]
    by_cases hbelow : m = leadingBit ∧ -1074 < e ∧ (num / den / 2 ^ e : ℚ) < m
    case pos =>
      obtain ⟨rfl, he, hlt⟩ := hbelow
      obtain ⟨hexponent, hquotient⟩ := h.round_below hn hd he hlt
      have hcarry : (e - 1 + 1074).toNat * leadingBit + 2 * leadingBit =
          (e + 1074).toNat * leadingBit + leadingBit := by
        rw [show (e + 1074).toNat = (e - 1 + 1074).toNat + 1 by omega]
        ring
      rw [hexponent, hquotient, hcarry]
    case neg =>
      obtain ⟨hexponent, hquotient⟩ := h.round_self hnormal hn hd fun hm he =>
        le_of_not_gt fun hlt => hbelow ⟨hm, he, hlt⟩
      rw [hexponent, hquotient]

theorem ofRatio_eq_of_parts (h : IsNear (num / den) m e) (hx : parts x = .finite negative m e)
    (hd : 0 < den) : ofRatio negative num den = x := by
  obtain ⟨rfl, hu, hnormal, -, hbits⟩ := parts_eq_finite hx
  rw [h.ofRatio_eq hnormal hd, ← hbits, Nat.min_eq_left (magnitudeBits_le hu),
    ofMagnitudeBits_magnitudeBits hu]

end IsNear

end Rulebook.Number
