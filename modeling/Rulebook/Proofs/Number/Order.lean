import Rulebook.Proofs.Number.Whole

/-!
The key that orders the numbers counts their magnitudes, so that whole numbers are ordered by what
they are.
-/

namespace Rulebook.Number

variable {x y : Float} {negative : Bool} {m n : ℕ} {e f : ℤ} {j k : ℤ}

-- The bits of a number but for its sign.
def magnitudeOf (m : ℕ) (e : ℤ) : ℕ :=
  (e + 1074).toNat * leadingBit + m

theorem lt_of_exponent_lt (hm : IsNormal m e) (hn : IsNormal n f) (h : e < f) :
    magnitudeOf m e < magnitudeOf n f ∧ (m * 2 ^ e : ℚ) < n * 2 ^ f := by
  have hleast := hm.exponent
  have hlt := hm.lt
  have hleading : leadingBit ≤ n := hn.leading.resolve_right (by omega)
  constructor
  · simp only [magnitudeOf, leadingBit] at *
    omega
  · have hlt : (m : ℚ) < 2 * leadingBit := by exact_mod_cast hlt
    have hleading : (leadingBit : ℚ) ≤ n := by exact_mod_cast hleading
    calc (m * 2 ^ e : ℚ) < 2 * leadingBit * 2 ^ e := by gcongr
      _ = leadingBit * 2 ^ (e + 1) := by rw [zpow_add_one₀ two_ne_zero]; ring
      _ ≤ n * 2 ^ f := by
        gcongr
        · exact one_le_two
        · omega

theorem magnitudeOf_lt_iff (hm : IsNormal m e) (hn : IsNormal n f) :
    magnitudeOf m e < magnitudeOf n f ↔ (m * 2 ^ e : ℚ) < n * 2 ^ f := by
  obtain h | rfl | h := lt_trichotomy e f
  · exact iff_of_true (lt_of_exponent_lt hm hn h).1 (lt_of_exponent_lt hm hn h).2
  · rw [mul_lt_mul_iff_left₀ (by positivity), magnitudeOf, magnitudeOf, Nat.add_lt_add_iff_left,
      Nat.cast_lt]
  · exact iff_of_false (lt_of_exponent_lt hn hm h).1.asymm (lt_of_exponent_lt hn hm h).2.asymm

theorem key?_of_parts (hx : parts x = .finite negative m e) :
    key? x = some (if negative then -(magnitudeOf m e : ℤ) else magnitudeOf m e) := by
  obtain ⟨hsign, hu, -, -, hbits⟩ := parts_eq_finite hx
  rw [key?, hu, hsign, hbits]
  rfl

theorem compare_eq_of_lt_iff {i j k l : ℤ} (hlt : i < j ↔ k < l) (hgt : j < i ↔ l < k) :
    compare i j = compare k l := by
  obtain h | h | h := lt_trichotomy k l
  · rw [compare_lt_iff_lt.2 h, compare_lt_iff_lt.2 (hlt.2 h)]
  · have hij : i = j := by omega
    rw [h, hij, compare_eq_iff_eq.2 rfl, compare_eq_iff_eq.2 rfl]
  · rw [compare_gt_iff_gt.2 h, compare_gt_iff_gt.2 (hgt.2 h)]

theorem compare?_of_toInt? (hx : toInt? x = some j) (hy : toInt? y = some k) :
    compare? x y = some (compare j k) := by
  obtain ⟨s, m, e, hx'⟩ := exists_parts_of_toInt? hx
  obtain ⟨t, n, f, hy'⟩ := exists_parts_of_toInt? hy
  obtain ⟨a, rfl, ha⟩ := toInt?_eq_some hx' hx
  obtain ⟨b, rfl, hb⟩ := toInt?_eq_some hy' hy
  have hm := (parts_eq_finite hx').2.2.1
  have hn := (parts_eq_finite hy').2.2.1
  have hzero : IsNormal 0 (-1074) := ⟨by decide, le_rfl, .inr rfl⟩
  have hlt : magnitudeOf m e < magnitudeOf n f ↔ a < b := by
    rw [magnitudeOf_lt_iff hm hn, ← ha, ← hb, Nat.cast_lt]
  have hgt : magnitudeOf n f < magnitudeOf m e ↔ b < a := by
    rw [magnitudeOf_lt_iff hn hm, ← ha, ← hb, Nat.cast_lt]
  have hpos {m a : ℕ} {e : ℤ} (hm : IsNormal m e) (ha : (a : ℚ) = m * 2 ^ e) :
      0 < magnitudeOf m e ↔ 0 < a := by
    have h := magnitudeOf_lt_iff hzero hm
    rw [← ha, Nat.cast_zero, zero_mul, Nat.cast_pos] at h
    exact h
  have hma := hpos hm ha
  have hnb := hpos hn hb
  simp only [compare?, key?_of_parts hx', key?_of_parts hy', Option.some.injEq]
  cases s <;> cases t <;> simp only [Bool.false_eq_true, ↓reduceIte]
  all_goals apply compare_eq_of_lt_iff <;> omega

end Rulebook.Number
