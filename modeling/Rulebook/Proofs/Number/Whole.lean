import Rulebook.Number.Rounding
import Rulebook.Proofs.Number.Shortest

/-!
Whole numbers among the numbers. To convert a number to a whole one and back loses nothing but the
sign of a zero.
-/

namespace Rulebook.Number

variable {x : Float} {n : ℤ} {m k : ℕ} {e : ℤ} {negative : Bool}

theorem exists_parts_of_toInt? (h : toInt? x = some n) :
    ∃ negative m e, parts x = .finite negative m e := by
  simp only [toInt?] at h
  split at h
  case h_1 hx => exact ⟨_, _, _, hx⟩
  case h_2 => cases h

theorem toInt?_eq_some (hx : parts x = .finite negative m e) (h : toInt? x = some n) :
    ∃ k : ℕ, n = (if negative then -(k : ℤ) else k) ∧ (k : ℚ) = m * 2 ^ e := by
  simp only [toInt?, hx, Nat.pow_eq] at h
  split at h
  case isTrue he =>
    cases h
    refine ⟨m * 2 ^ e.toNat, by split <;> push_cast <;> ring, ?_⟩
    have hpow : (2 : ℚ) ^ e.toNat = 2 ^ e := by rw [← zpow_natCast, Int.toNat_of_nonneg he]
    push_cast
    rw [hpow]
  case isFalse he =>
    split at h
    case isTrue hmod =>
      obtain ⟨k, rfl⟩ := Nat.dvd_of_mod_eq_zero hmod
      have hunit : ((2 ^ (-e).toNat : ℕ) : ℤ) ≠ 0 := by positivity
      have hpow : (2 : ℚ) ^ (-e).toNat * 2 ^ e = 1 := by
        rw [← zpow_natCast, Int.toNat_of_nonneg (by omega), ← zpow_add₀ two_ne_zero]
        simp
      cases h
      refine ⟨k, ?_, ?_⟩
      · split
        · rw [Nat.cast_mul, ← mul_neg, Int.mul_ediv_cancel_left _ hunit]
        · rw [Nat.cast_mul, Int.mul_ediv_cancel_left _ hunit]
      · push_cast
        linear_combination -(k : ℚ) * hpow
    case isFalse => cases h

theorem ofRatio_of_parts (hx : parts x = .finite negative m e) (hk : (k : ℚ) = m * 2 ^ e) :
    ofRatio negative k 1 = x := by
  have hunit : (0 : ℚ) < 2 ^ e := by positivity
  have hnear : IsNear ((k : ℕ) / (1 : ℕ)) m e := by
    rw [Nat.cast_one, div_one, hk]
    exact isNear_of_le le_rfl (by linarith)
  exact hnear.ofRatio_eq_of_parts hx Nat.one_pos

theorem ofInt_of_toInt? (hx : parts x = .finite negative m e) (h : toInt? x = some n)
    (hm : m ≠ 0) : ofInt n = x := by
  obtain ⟨k, rfl, hk⟩ := toInt?_eq_some hx h
  have hk₀ : 0 < k := by
    have hpos : (0 : ℚ) < k := by rw [hk]; positivity
    exact_mod_cast hpos
  have hsign : decide ((if negative then -(k : ℤ) else k) < 0) = negative := by
    cases negative <;> simp [hk₀]
  have habs : (if negative then -(k : ℤ) else k).natAbs = k := by
    cases negative <;> simp
  rw [ofInt, hsign, habs, ofRatio_of_parts hx hk]

theorem equal_zero_of_parts (hx : parts x = .finite negative 0 e) : equal x 0 = true := by
  obtain ⟨-, hu, hnormal, -, hbits⟩ := parts_eq_finite hx
  have he : e = -1074 := hnormal.leading.resolve_left (by decide)
  have hbits : magnitudeBits x = 0 := by rw [hbits, he]; rfl
  rw [equal_zero_iff, key?_eq_some_iff, hu, hbits]
  simp

theorem equal_ofInt_of_toInt? (h : toInt? x = some n) : equal (ofInt n) x = true := by
  obtain ⟨negative, m, e, hx⟩ := exists_parts_of_toInt? h
  by_cases hm : m = 0
  case pos =>
    subst hm
    obtain ⟨k, rfl, hk⟩ := toInt?_eq_some hx h
    obtain rfl : k = 0 := by simpa using hk
    have hzero : ofInt 0 = 0 := by decide
    rw [Nat.cast_zero, neg_zero, ite_self, hzero, equal_comm]
    exact equal_zero_of_parts hx
  case neg =>
    rw [ofInt_of_toInt? hx h hm, equal_self_iff]
    exact (parts_eq_finite hx).2.1

theorem clampToInt_of_toInt? (h : toInt? x = some n) (low high : ℤ) :
    clampToInt low high x = max low (min high n) := by
  obtain ⟨negative, m, e, hx⟩ := exists_parts_of_toInt? h
  simp only [toInt?, hx, Nat.pow_eq] at h
  simp only [clampToInt, hx, Nat.pow_eq]
  split at h
  case isTrue he =>
    cases h
    rw [if_pos he]
    cases negative <;> simp
  case isFalse he =>
    rw [if_neg he]
    split at h
    case isTrue hmod =>
      obtain ⟨k, rfl⟩ := Nat.dvd_of_mod_eq_zero hmod
      cases h
      rw [Nat.mul_div_cancel_left k (by positivity)]
      cases negative <;> simp [← mul_neg]
    case isFalse => cases h

-- The mantissa of a whole number ends in as many binary zeros as there are places behind the point.
theorem mantissa_eq_mul_two_pow {i : ℕ} (hk : (k : ℚ) = m * 2 ^ (-i : ℤ)) : m = k * 2 ^ i := by
  have : (m : ℚ) = (k * 2 ^ i : ℕ) := by
    push_cast
    rw [hk, zpow_neg, zpow_natCast, inv_mul_cancel_right₀ (by positivity)]
  exact_mod_cast this

-- A whole number is rounded to itself, whichever way the others go.
theorem toWholeBy_of_toInt? {up : Bool → ℕ → ℕ → Bool} (hup : ∀ s unit, up s 0 unit = false)
    (h : toInt? x = some n) : toWholeBy up x = x := by
  obtain ⟨negative, m, e, hx⟩ := exists_parts_of_toInt? h
  obtain ⟨k, -, hk⟩ := toInt?_eq_some hx h
  simp only [toWholeBy, hx, Nat.pow_eq]
  split
  case isTrue => rfl
  case isFalse he =>
    obtain ⟨i, rfl⟩ : ∃ i : ℕ, e = -i := ⟨(-e).toNat, by omega⟩
    rw [Int.neg_neg, Int.toNat_natCast, mantissa_eq_mul_two_pow hk, Nat.mul_mod_left, hup,
      Nat.mul_div_cancel _ (by positivity), if_neg Bool.false_ne_true, ofRatio_of_parts hx hk]

theorem truncate_of_toInt? (h : toInt? x = some n) : truncate x = x :=
  toWholeBy_of_toInt? (fun _ _ => rfl) h

theorem floor_of_toInt? (h : toInt? x = some n) : floor x = x :=
  toWholeBy_of_toInt? (fun s _ => Bool.and_false s) h

end Rulebook.Number
