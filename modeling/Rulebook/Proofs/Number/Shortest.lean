import Rulebook.Proofs.Number.Nearest

/-!
The search for the shortest decimal ends between the neighbours of the number: the grids become fine
enough before the steps run out.
-/

namespace Rulebook.Number

variable {num den m k : ℕ} {e exponent : ℤ} {tieUp : ℕ → Bool}

theorem le_gapBelow (m : ℕ) (e : ℤ) : 1 / 4 ≤ gapBelow m e := by
  rw [gapBelow]
  split <;> norm_num

theorem isNear_of_le {v : ℚ} (hle : v ≤ m * 2 ^ e) (hlt : m * 2 ^ e < v + 2 ^ e / 4) :
    IsNear v m e := by
  have hunit : (0 : ℚ) < 2 ^ e := by positivity
  have hgap : (1 / 4 : ℚ) * 2 ^ e ≤ gapBelow m e * 2 ^ e := by gcongr; exact le_gapBelow m e
  have hlow : (m - gapBelow m e) * 2 ^ e < v := by linarith
  have hhigh : v < (m + 1 / 2) * 2 ^ e := by linarith
  exact ⟨hlow.le, hhigh.le, fun _ => ⟨hlow, hhigh⟩⟩

namespace Interval

theorem unit_pos (m : ℕ) (e : ℤ) : 0 < (ofParts m e).unit := by
  simp only [ofParts, Nat.pow_eq]
  split <;> positivity

-- The power as a fraction, one side of which is 1.
theorem cast_pow {base : ℕ} (hbase : 0 < base) (e : ℤ) :
    ((if 0 ≤ e then Nat.pow base e.toNat else 1 : ℕ) : ℚ) =
      base ^ e * (if 0 ≤ e then 1 else Nat.pow base (-e).toNat : ℕ) := by
  have hbase' : (base : ℚ) ≠ 0 := by exact_mod_cast hbase.ne'
  split
  case isTrue he =>
    obtain ⟨k, rfl⟩ := Int.eq_ofNat_of_zero_le he
    simp
  case isFalse he =>
    obtain ⟨k, rfl⟩ : ∃ k : ℕ, e = -k := ⟨(-e).toNat, by omega⟩
    simp [hbase']

theorem cast_factor (e : ℤ) :
    ((if 0 ≤ e then Nat.pow 2 e.toNat else 1 : ℕ) : ℚ) =
      2 ^ e * (if 0 ≤ e then 1 else Nat.pow 2 (-e).toNat : ℕ) :=
  cast_pow two_pos e

theorem zpow_sub_two (e : ℤ) : (2 : ℚ) ^ (e - 2) = 2 ^ e / 4 := by
  rw [zpow_sub₀ two_ne_zero]
  norm_num

theorem cast_value (m : ℕ) (e : ℤ) :
    ((ofParts m e).value : ℚ) = m * 2 ^ e * (ofParts m e).unit := by
  simp only [ofParts, Nat.cast_mul, cast_factor, zpow_sub_two]
  push_cast
  ring

theorem cast_high (m : ℕ) (e : ℤ) :
    ((ofParts m e).high : ℚ) = (m + 1 / 2) * 2 ^ e * (ofParts m e).unit := by
  simp only [ofParts, Nat.cast_mul, cast_factor, zpow_sub_two]
  push_cast
  ring

theorem cast_low (hm : m ≠ 0) (e : ℤ) :
    ((ofParts m e).low : ℚ) = (m - gapBelow m e) * 2 ^ e * (ofParts m e).unit := by
  have hbelow : ((4 * m - if m = leadingBit ∧ -1074 < e then 1 else 2 : ℕ) : ℚ) =
      4 * (m - gapBelow m e) := by
    rw [gapBelow]
    split <;> rw [Nat.cast_sub (by omega)] <;> push_cast <;> ring
  simp only [ofParts, Nat.cast_mul, cast_factor, zpow_sub_two, hbelow]
  ring

theorem mul_le_mul_iff_of_cast (num : ℕ) {bound unit : ℕ} {v : ℚ} (h : (bound : ℚ) = v * unit)
    (hunit : 0 < unit) (hd : 0 < den) :
    (bound * den ≤ num * unit ↔ v ≤ num / den) ∧ (num * unit ≤ bound * den ↔ num / den ≤ v) := by
  have hd' : (0 : ℚ) < den := by exact_mod_cast hd
  have hunit' : (0 : ℚ) < unit := by exact_mod_cast hunit
  rw [← Nat.cast_le (α := ℚ), ← Nat.cast_le (α := ℚ), Nat.cast_mul, Nat.cast_mul, h,
    mul_right_comm, mul_le_mul_iff_left₀ hunit', mul_le_mul_iff_left₀ hunit', le_div_iff₀ hd',
    div_le_iff₀ hd']
  exact ⟨Iff.rfl, Iff.rfl⟩

theorem contains_iff (hm : m ≠ 0) (hd : 0 < den) :
    (ofParts m e).contains num den = true ↔ IsNear (num / den) m e := by
  obtain ⟨hlow, hlow'⟩ := mul_le_mul_iff_of_cast num (cast_low hm e) (unit_pos m e) hd
  obtain ⟨hhigh', hhigh⟩ := mul_le_mul_iff_of_cast num (cast_high m e) (unit_pos m e) hd
  have hclosed : (ofParts m e).closed = decide (m % 2 = 0) := rfl
  rw [contains, hclosed]
  by_cases heven : m % 2 = 0
  case pos =>
    simp only [heven, decide_true, ↓reduceIte, Bool.and_eq_true, decide_eq_true_eq, hlow, hhigh]
    exact ⟨fun ⟨h₁, h₂⟩ => ⟨h₁, h₂, fun hodd => by omega⟩, fun h => ⟨h.low, h.high⟩⟩
  case neg =>
    simp only [heven, decide_false, Bool.false_eq_true, ↓reduceIte, Bool.and_eq_true,
      decide_eq_true_eq, ← not_le, hlow', hhigh']
    rw [not_le, not_le]
    exact ⟨fun ⟨h₁, h₂⟩ => ⟨h₁.le, h₂.le, fun _ => ⟨h₁, h₂⟩⟩, fun h => h.odd (by omega)⟩

end Interval

-- The number that a decimal denotes.
def Decimal.value (d : Decimal) : ℚ :=
  d.digits * 10 ^ d.exponent

namespace Interval

-- The multiples of `10 ^ exponent` as fractions over one denominator.
theorem exists_grid (exponent : ℤ) : ∃ step denominator : ℕ, 0 < denominator ∧
    (if 0 ≤ exponent then Nat.pow 10 exponent.toNat else 1) = step ∧
    (if 0 ≤ exponent then 1 else Nat.pow 10 (-exponent).toNat) = denominator ∧
    (step : ℚ) = 10 ^ exponent * denominator :=
  ⟨_, _, by split <;> simp, rfl, rfl, cast_pow (by decide) exponent⟩

theorem value_eq_div {step denominator : ℕ} (hpos : 0 < denominator)
    (h : (step : ℚ) = 10 ^ exponent * denominator) (digits : ℕ) :
    Decimal.value ⟨digits, exponent⟩ = (digits * step : ℕ) / denominator := by
  rw [Decimal.value, Nat.cast_mul, h, ← mul_assoc, mul_div_cancel_right₀]
  exact_mod_cast hpos.ne'

theorem isNear_of_onGrid? {digits : ℕ} (hm : m ≠ 0)
    (h : (ofParts m e).onGrid? tieUp exponent = some digits) :
    IsNear (Decimal.value ⟨digits, exponent⟩) m e := by
  obtain ⟨step, denominator, hpos, hstep, hdenominator, hcast⟩ := exists_grid exponent
  rw [value_eq_div hpos hcast, ← contains_iff hm hpos]
  simp only [onGrid?, hstep, hdenominator] at h
  split at h
  case isTrue hlow =>
    cases h
    exact (Bool.and_eq_true_iff.1 hlow).1
  case isFalse =>
    split at h <;> cases h
    assumption

-- The multiples of `10 ^ exponent` on either side of the number.
theorem grid_bounds {step denominator : ℕ} (hpos : 0 < denominator)
    (hcast : (step : ℚ) = 10 ^ exponent * denominator) {below : ℕ}
    (h : (ofParts m e).value * denominator / ((ofParts m e).unit * step) = below) :
    (below * 10 ^ exponent : ℚ) ≤ m * 2 ^ e ∧ (m * 2 ^ e : ℚ) < (below + 1) * 10 ^ exponent := by
  have hpos' : (0 : ℚ) < denominator := by exact_mod_cast hpos
  have hunit : (0 : ℚ) < (ofParts m e).unit := by exact_mod_cast unit_pos m e
  have hstep : 0 < step := by
    have : (0 : ℚ) < step := by rw [hcast]; positivity
    exact_mod_cast this
  have hle := Nat.div_mul_le_self ((ofParts m e).value * denominator) ((ofParts m e).unit * step)
  have hlt := Nat.lt_mul_div_succ ((ofParts m e).value * denominator)
    (Nat.mul_pos (unit_pos m e) hstep)
  rw [h, ← Nat.cast_le (α := ℚ)] at hle
  rw [h, ← Nat.cast_lt (α := ℚ)] at hlt
  push_cast [cast_value, hcast] at hle hlt
  constructor
  · refine le_of_mul_le_mul_right ?_ (mul_pos hunit hpos')
    linarith
  · refine lt_of_mul_lt_mul_right ?_ (mul_pos hunit hpos').le
    linarith

-- A grid that is fine enough has a point between the lower middle and the number.
theorem isSome_onGrid? (hm : m ≠ 0) (hfine : (10 : ℚ) ^ exponent ≤ 2 ^ e / 4) :
    ((ofParts m e).onGrid? tieUp exponent).isSome = true := by
  obtain ⟨step, denominator, hpos, hstep, hdenominator, hcast⟩ := exists_grid exponent
  simp only [onGrid?, hstep, hdenominator]
  generalize hbelow : (ofParts m e).value * denominator / ((ofParts m e).unit * step) = below
  obtain ⟨hle, hlt⟩ := grid_bounds hpos hcast hbelow
  have hnear : IsNear (Decimal.value ⟨below, exponent⟩) m e :=
    isNear_of_le hle (by rw [Decimal.value]; linarith)
  rw [value_eq_div hpos hcast, ← contains_iff hm hpos] at hnear
  rw [hnear, Bool.true_and]
  cases (ofParts m e).contains ((below + 1) * step) denominator with
  | false => simp
  | true => split <;> simp

theorem search_eq {i : Interval} {steps : ℕ} (hk : k < steps)
    (h : (i.onGrid? tieUp (exponent - k)).isSome = true) :
    ∃ digits found, i.onGrid? tieUp found = some digits ∧
      i.search tieUp steps exponent = ⟨digits, found⟩ := by
  induction steps generalizing exponent k with
  | zero => exact absurd hk (Nat.not_lt_zero k)
  | succ steps ih =>
    rw [search]
    cases hdigits : i.onGrid? tieUp exponent with
    | some digits => exact ⟨digits, exponent, hdigits, rfl⟩
    | none =>
      cases k with
      | zero => simp [hdigits] at h
      | succ k =>
        refine ih (Nat.lt_of_succ_lt_succ hk) ?_
        rwa [Nat.cast_succ, Int.add_comm, ← Int.sub_sub] at h

end Interval

theorem ten_pow_le (n : ℕ) : 10 ^ n ≤ 2 ^ (10 * (n / 3) + 4 * (n % 3)) :=
  calc 10 ^ n = (10 ^ 3) ^ (n / 3) * 10 ^ (n % 3) := by
        rw [← pow_mul, ← pow_add, Nat.div_add_mod]
    _ ≤ (2 ^ 10) ^ (n / 3) * (2 ^ 4) ^ (n % 3) :=
        Nat.mul_le_mul (Nat.pow_le_pow_left (by decide) _) (Nat.pow_le_pow_left (by decide) _)
    _ = 2 ^ (10 * (n / 3) + 4 * (n % 3)) := by rw [← pow_mul, ← pow_mul, ← pow_add]

theorem le_ten_pow (n : ℕ) : 2 ^ (83 * (n / 25) + 3 * (n % 25)) ≤ 10 ^ n :=
  calc 2 ^ (83 * (n / 25) + 3 * (n % 25)) = (2 ^ 83) ^ (n / 25) * (2 ^ 3) ^ (n % 25) := by
        rw [← pow_mul, ← pow_mul, ← pow_add]
    _ ≤ (10 ^ 25) ^ (n / 25) * 10 ^ (n % 25) :=
        Nat.mul_le_mul (Nat.pow_le_pow_left (by decide) _) (Nat.pow_le_pow_left (by decide) _)
    _ = 10 ^ n := by rw [← pow_mul, ← pow_add, Nat.div_add_mod]

-- The logarithm of 2 to the base 10 is close to 0.30103.
theorem ten_zpow_le {i j : ℤ} (h : 100000 * i + 544335 ≤ 30103 * j) (hlow : -1100 ≤ j)
    (hhigh : j ≤ 1100) : (10 : ℚ) ^ i ≤ 2 ^ j := by
  obtain ⟨n, rfl | rfl⟩ := i.eq_nat_or_neg
  · obtain ⟨k, rfl⟩ := Int.eq_ofNat_of_zero_le (show 0 ≤ j by omega)
    have hpow : 10 ^ n ≤ 2 ^ k :=
      (ten_pow_le n).trans (Nat.pow_le_pow_right two_pos (by omega))
    simp only [zpow_natCast]
    exact_mod_cast hpow
  · have hpow : 2 ^ (-j).toNat ≤ 10 ^ n :=
      (Nat.pow_le_pow_right two_pos (by omega)).trans (le_ten_pow n)
    calc (10 : ℚ) ^ (-n : ℤ) ≤ 2 ^ (-((-j).toNat : ℤ)) := by
          rw [zpow_neg, zpow_neg, zpow_natCast, zpow_natCast]
          exact inv_anti₀ (by positivity) (by exact_mod_cast hpow)
      _ ≤ 2 ^ j := zpow_le_zpow_right₀ one_le_two (by omega)

theorem shortest_isNear (hm : m ≠ 0) (hnormal : IsNormal m e) (he : e ≤ 971) :
    IsNear (shortest tieUp m e).value m e := by
  have hlog : m.log2 ≤ 52 := Nat.lt_succ_iff.1 ((Nat.log2_lt hm).2 hnormal.lt)
  have hleast := hnormal.exponent
  rw [shortest, if_neg hm]
  simp only
  generalize hcoarsest : ((m.log2 : ℤ) + 1 + e) * 30103 / 100000 + 1 = coarsest
  have hfine : (10 : ℚ) ^ (coarsest - (23 : ℕ)) ≤ 2 ^ e / 4 := by
    rw [← Interval.zpow_sub_two]
    exact ten_zpow_le (by omega) (by omega) (by omega)
  obtain ⟨digits, found, hdigits, hsearch⟩ :=
    Interval.search_eq (by decide : 23 < 24) (Interval.isSome_onGrid? hm hfine)
  rw [hsearch]
  exact Interval.isNear_of_onGrid? hm hdigits

end Rulebook.Number
