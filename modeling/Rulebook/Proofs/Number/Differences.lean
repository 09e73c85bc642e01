import Rulebook.Proofs.Number.Rounded

/-!
Differences are rounded once: a difference is the number nearest to the exact one. The operands are
brought to one exponent, where the difference of the mantissas is exact.
-/

namespace Rulebook.Number

open Float.Model (UnpackedFloat totalExponent)
open Float.Model.UnpackedFloat

variable {x y : Float} {negative s t : Bool} {m n num den : ℕ} {e f : ℤ} {d : ℤ}

theorem ofModel_pack_round (negative : Bool) (hm : m ≠ 0) (hd : 0 < den)
    (h : (num / den : ℚ) = m * 2 ^ e) :
    Float.ofModel (.pack (UnpackedFloat.round binary (signOf negative) m e)) =
      ofRatio negative num den := by
  simp only [UnpackedFloat.round, decreaseExponent]
  obtain ⟨k, hk⟩ : ∃ k : ℕ, (e - binary.targetExponent (totalExponent m e)).toNat = k := ⟨_, rfl⟩
  have htotal : totalExponent (m * 2 ^ k) (e - k) = totalExponent m e := by
    rw [totalExponent, totalExponent, log2_mul_two_pow hm]
    omega
  rw [hk, Nat.shiftLeft_eq]
  apply ofModel_pack_roundWithAccuracy hd
  · rw [htotal]
    omega
  · have hexact : (num / den / 2 ^ (e - k) : ℚ) = (m * 2 ^ k : ℕ) := by
      rw [h, zpow_sub₀ two_ne_zero, zpow_natCast]
      push_cast
      field_simp
    exact hexact

theorem signed_eq_signed {a b : ℚ} (ha : 0 < a) (hb : 0 < b)
    (h : (if s then -a else a) = if t then -b else b) : s = t ∧ a = b := by
  cases s <;> cases t <;> simp only [Bool.false_eq_true, ↓reduceIte] at h
  case false.false => exact ⟨rfl, h⟩
  case true.true => exact ⟨rfl, neg_inj.1 h⟩
  all_goals linarith

theorem ofModel_pack_normalize (hd : 0 < den) (hnum : num ≠ 0)
    (h : (if negative then -(num / den) else num / den : ℚ) = d * 2 ^ e) :
    Float.ofModel (.pack (UnpackedFloat.normalize binary d e .positive)) =
      ofRatio negative num den := by
  have hunit : (0 : ℚ) < 2 ^ e := by positivity
  have hratio : (0 : ℚ) < num / den := by positivity
  obtain hlt | rfl | hgt := lt_trichotomy d 0
  · obtain ⟨k, rfl⟩ : ∃ k : ℕ, d = -(k : ℤ) := ⟨(-d).toNat, by omega⟩
    have hk : (0 : ℚ) < k := by exact_mod_cast (by omega : 0 < k)
    rw [Int.cast_neg, Int.cast_natCast, neg_mul] at h
    obtain ⟨rfl, hvalue⟩ := signed_eq_signed (t := true) hratio (mul_pos hk hunit) h
    rw [UnpackedFloat.normalize, Int.compare_eq_lt.2 hlt]
    simp only [Int.neg_neg, Int.toNat_natCast]
    exact ofModel_pack_round true (by omega) hd hvalue
  · rw [Int.cast_zero, zero_mul] at h
    split at h <;> linarith
  · obtain ⟨k, rfl⟩ := Int.eq_ofNat_of_zero_le hgt.le
    have hk : (0 : ℚ) < k := by exact_mod_cast hgt
    rw [Int.cast_natCast] at h
    obtain ⟨rfl, hvalue⟩ := signed_eq_signed (t := false) hratio (mul_pos hk hunit) h
    rw [UnpackedFloat.normalize, Int.compare_eq_gt.2 hgt]
    simp only [Int.toNat_natCast]
    exact ofModel_pack_round false (by omega) hd hvalue

theorem apply_signOf (negative : Bool) (k : ℕ) : (signOf negative).apply k = signed negative k := by
  cases negative <;> rfl

theorem cast_signed_shiftLeft (negative : Bool) {least : ℤ} (he : least ≤ e) :
    (signed negative (m <<< (e - least).toNat) * 2 ^ least : ℚ) = signed negative m * 2 ^ e := by
  obtain ⟨k, rfl⟩ := Int.le.dest he
  have hk : (least + k - least).toNat = k := by omega
  rw [hk, Nat.shiftLeft_eq, zpow_add₀ two_ne_zero, zpow_natCast]
  cases negative <;> simp only [signed, Bool.false_eq_true, ↓reduceIte] <;> push_cast <;> ring

-- A number that is not zero, less another one, is the number nearest to their difference.
theorem sub_eq_ofRatio (hx : parts x = .finite s m e) (hy : parts y = .finite t n f) (hm : m ≠ 0)
    (hd : 0 < den) (hnum : num ≠ 0) (h : (if negative then -(num / den) else num / den : ℚ) =
      signed s m * 2 ^ e - signed t n * 2 ^ f) : x - y = ofRatio negative num den := by
  show Float.ofModel (.pack (UnpackedFloat.sub binary x.toModel.unpack y.toModel.unpack)) = _
  rw [unpack_of_parts hx, unpack_of_parts hy, ← unpacked_of_pos (Nat.pos_of_ne_zero hm) rfl]
  by_cases hn : n = 0
  case pos =>
    subst hn
    have hzero : (signed t 0 : ℚ) = 0 := by cases t <;> simp [signed]
    have hvalue : (signed s m * 2 ^ e : ℚ) = if s then -((m : ℚ) * 2 ^ e) else m * 2 ^ e := by
      cases s <;> simp [signed]
    rw [hzero, zero_mul, sub_zero, hvalue] at h
    obtain ⟨rfl, hratio⟩ := signed_eq_signed (by positivity) (by positivity) h
    have hnear : IsNear (num / den) m e := by
      rw [hratio]
      exact isNear_of_le le_rfl (lt_add_of_pos_right _ (by positivity))
    have hsub : UnpackedFloat.sub binary (.finite (signOf negative) m e (Nat.pos_of_ne_zero hm))
        (unpacked t 0 f) = x.toModel.unpack := by
      rw [unpack_of_parts hx, ← unpacked_of_pos (Nat.pos_of_ne_zero hm) rfl]
      rfl
    rw [hsub, hnear.ofRatio_eq_of_parts hx hd]
    exact Float.ofBits_toBits x
  case neg =>
    rw [← unpacked_of_pos (Nat.pos_of_ne_zero hn) rfl]
    simp only [UnpackedFloat.sub, decreaseExponent, apply_signOf]
    refine ofModel_pack_normalize hd hnum ?_
    rw [h, Int.cast_sub, sub_mul, cast_signed_shiftLeft s (min_le_left e f),
      cast_signed_shiftLeft t (min_le_right e f)]

end Rulebook.Number
