import Rulebook.Proofs.Number.Packing

/-!
Products and quotients are rounded once: each is the number nearest to the exact outcome. The
mantissa is shifted to its place with two bits that keep what is lost, and these bits decide.
-/

namespace Rulebook.Number

open Float.Model (UnpackedFloat totalExponent)
open Float.Model.UnpackedFloat

variable {x y : Float} {negative s t : Bool} {m n num den : ℕ} {e f target : ℤ} {v : ℚ}
  {em : ExtendedMantissa} {accuracy : Accuracy}

-- `r` is the whole number nearest to `v`, the even one where two are as near.
structure RoundsTo (v : ℚ) (r : ℕ) : Prop where
  low : r - 1 / 2 ≤ v
  high : v ≤ r + 1 / 2
  odd : r % 2 = 1 → r - 1 / 2 < v ∧ v < r + 1 / 2

-- The mantissa with its two bits tells `v` as far as rounding needs to know it.
def Tells (em : ExtendedMantissa) (v : ℚ) : Prop :=
  match em.roundBit, em.stickyBit with
  | false, false => v = em.mantissa
  | false, true => em.mantissa < v ∧ v < em.mantissa + 1 / 2
  | true, false => v = em.mantissa + 1 / 2
  | true, true => em.mantissa + 1 / 2 < v ∧ v < em.mantissa + 1

namespace Tells

theorem shiftRightOne (h : Tells em v) : Tells em.shiftRightOne (v / 2) := by
  obtain ⟨m, roundBit, stickyBit⟩ := em
  obtain ⟨k, rfl | rfl⟩ := m.even_or_odd'
  · cases roundBit <;> cases stickyBit <;>
      simp [Tells, ExtendedMantissa.shiftRightOne] at h ⊢
    case false.false => linarith
    all_goals constructor <;> linarith
  · cases roundBit <;> cases stickyBit <;>
      simp [Tells, ExtendedMantissa.shiftRightOne, Nat.mul_add_div] at h ⊢
    case false.false => linarith
    all_goals constructor <;> linarith

theorem shiftRight (h : Tells em v) (k : ℕ) : Tells (em >>> k) (v / 2 ^ k) := by
  show Tells (k.repeat ExtendedMantissa.shiftRightOne em) (v / 2 ^ k)
  induction k with
  | zero => simpa [Nat.repeat] using h
  | succ k ih =>
    rw [pow_succ, ← div_div]
    exact ih.shiftRightOne

theorem bounds (h : Tells em v) : em.mantissa ≤ v ∧ v < em.mantissa + 1 := by
  obtain ⟨m, roundBit, stickyBit⟩ := em
  cases roundBit <;> cases stickyBit <;> simp [Tells] at h ⊢
  all_goals constructor <;> linarith

theorem roundsTo (h : Tells em v) : RoundsTo v em.roundedMantissa := by
  obtain ⟨m, roundBit, stickyBit⟩ := em
  cases roundBit <;> cases stickyBit <;> simp only [Tells] at h
  case false.false =>
    have hr : ExtendedMantissa.roundedMantissa ⟨m, false, false⟩ = m := rfl
    rw [hr]
    exact ⟨by linarith, by linarith, fun _ => ⟨by linarith, by linarith⟩⟩
  case false.true =>
    have hr : ExtendedMantissa.roundedMantissa ⟨m, false, true⟩ = m := rfl
    rw [hr]
    exact ⟨by linarith, by linarith, fun _ => ⟨by linarith, by linarith⟩⟩
  case true.true =>
    have hr : ExtendedMantissa.roundedMantissa ⟨m, true, true⟩ = m + 1 := rfl
    have hcast : ((m + 1 : ℕ) : ℚ) = m + 1 := Nat.cast_succ m
    rw [hr]
    exact ⟨by linarith, by linarith, fun _ => ⟨by linarith, by linarith⟩⟩
  case true.false =>
    have hr : ExtendedMantissa.roundedMantissa ⟨m, true, false⟩ = m + m % 2 := rfl
    rw [hr]
    obtain heven | hodd := m.mod_two_eq_zero_or_one
    · rw [heven, Nat.add_zero]
      exact ⟨by linarith, by linarith, fun hodd => by omega⟩
    · have hcast : ((m + 1 : ℕ) : ℚ) = m + 1 := Nat.cast_succ m
      rw [hodd]
      exact ⟨by linarith, by linarith, fun hnext => by omega⟩

end Tells

theorem targetExponent_eq (total : ℤ) : binary.targetExponent total = max (total - 53) (-1074) :=
  rfl

theorem tells_shiftToExponent (h : Tells (.ofMantissaAndAccuracy m accuracy) (v / 2 ^ e))
    (he : e ≤ target) : Tells (shiftToExponent m e accuracy target).1 (v / 2 ^ target) ∧
      (shiftToExponent m e accuracy target).2 = target := by
  obtain ⟨k, rfl⟩ := Int.le.dest he
  have hk : (e + k - e).toNat = k := by omega
  simp only [shiftToExponent, hk, and_true]
  have hdiv : v / 2 ^ (e + k) = v / 2 ^ e / 2 ^ k := by
    rw [zpow_add₀ two_ne_zero, zpow_natCast, div_div]
  rw [hdiv]
  exact h.shiftRight k

-- A mantissa of 53 digits after rounding, if a digit was carried over.
def carried (r : ℕ) (target : ℤ) : ℕ × ℤ :=
  if r < 2 * leadingBit then (r, target) else (leadingBit, target + 1)

theorem shift_carried (hm : m ≤ 2 * leadingBit) (he : -1074 ≤ e) :
    shiftToTargetExponent binary m e .exact =
      (⟨(carried m e).1, false, false⟩, (carried m e).2) := by
  obtain hm | rfl := hm.lt_or_eq
  · have hlog : m.log2 ≤ 52 := by
      by_cases hzero : m = 0
      · simp [hzero]
      · exact Nat.lt_succ_iff.1 ((Nat.log2_lt hzero).2 hm)
    have hnone : (binary.targetExponent (totalExponent m e) - e).toNat = 0 := by
      rw [targetExponent_eq, totalExponent]
      omega
    simp only [shiftToTargetExponent, shiftToExponent, hnone, carried, hm, ↓reduceIte]
    simp [HShiftRight.hShiftRight, Nat.repeat, ExtendedMantissa.ofMantissaAndAccuracy]
  · have hlog : (2 * leadingBit).log2 = 53 := by decide +kernel
    have hone : (binary.targetExponent (totalExponent (2 * leadingBit) e) - e).toNat = 1 := by
      rw [targetExponent_eq, totalExponent, hlog]
      omega
    simp only [shiftToTargetExponent, shiftToExponent, hone]
    rfl

section Target

variable (hm : m ≤ v / 2 ^ e ∧ v / 2 ^ e < m + 1)
include hm

theorem lt_of_target (he : (m.log2 : ℤ) + 1 + e ≤ 53 + target) : v / 2 ^ target < 2 ^ 53 := by
  have hunit : (0 : ℚ) < 2 ^ e := by positivity
  have hnext : (m + 1 : ℚ) ≤ 2 ^ (m.log2 + 1) := by exact_mod_cast Nat.lt_log2_self
  rw [div_lt_iff₀ (by positivity)]
  calc v = v / 2 ^ e * 2 ^ e := (div_mul_cancel₀ v hunit.ne').symm
    _ < (m + 1) * 2 ^ e := by gcongr; exact hm.2
    _ ≤ 2 ^ (m.log2 + 1) * 2 ^ e := by gcongr
    _ = 2 ^ ((m.log2 : ℤ) + 1 + e) := by
      rw [zpow_add₀ two_ne_zero]
      exact_mod_cast rfl
    _ ≤ 2 ^ (53 + target) := zpow_le_zpow_right₀ one_le_two he
    _ = 2 ^ 53 * 2 ^ target := zpow_add₀ two_ne_zero _ _

theorem le_of_target (hzero : m ≠ 0) (he : 52 + target ≤ m.log2 + e) :
    2 ^ 52 ≤ v / 2 ^ target := by
  have hunit : (0 : ℚ) < 2 ^ e := by positivity
  have hleading : (2 : ℚ) ^ m.log2 ≤ m := by exact_mod_cast Nat.log2_self_le hzero
  rw [le_div_iff₀ (by positivity)]
  calc (2 : ℚ) ^ 52 * 2 ^ target = 2 ^ (52 + target) := (zpow_add₀ two_ne_zero _ _).symm
    _ ≤ 2 ^ ((m.log2 : ℤ) + e) := zpow_le_zpow_right₀ one_le_two he
    _ = 2 ^ m.log2 * 2 ^ e := by rw [zpow_add₀ two_ne_zero, zpow_natCast]
    _ ≤ v / 2 ^ e * 2 ^ e := by gcongr; exact hleading.trans hm.1
    _ = v := div_mul_cancel₀ v hunit.ne'

end Target

theorem isNear_of_scaled (hlow : m - gapBelow m e ≤ v / 2 ^ e) (hhigh : v / 2 ^ e ≤ m + 1 / 2)
    (hodd : m % 2 = 1 → m - gapBelow m e < v / 2 ^ e ∧ v / 2 ^ e < m + 1 / 2) : IsNear v m e := by
  have hunit : (0 : ℚ) < 2 ^ e := by positivity
  rw [le_div_iff₀ hunit, div_le_iff₀ hunit, lt_div_iff₀ hunit, div_lt_iff₀ hunit] at *
  exact ⟨hlow, hhigh, hodd⟩

namespace RoundsTo

variable {r : ℕ} (h : RoundsTo (v / 2 ^ target) r)
include h

theorem le_of_lt (hlt : v / 2 ^ target < 2 ^ 53) : r ≤ 2 * leadingBit := by
  have hcast : (r : ℚ) < (2 * leadingBit + 1 : ℕ) := by
    push_cast [cast_leadingBit]
    linarith [h.low]
  exact Nat.lt_succ_iff.1 (by exact_mod_cast hcast)

theorem le_of_le (hge : 2 ^ 52 ≤ v / 2 ^ target) : leadingBit ≤ r := by
  have hcast : (leadingBit : ℚ) < (r + 1 : ℕ) := by
    push_cast [cast_leadingBit]
    linarith [h.high]
  exact Nat.lt_succ_iff.1 (by exact_mod_cast hcast)

theorem carried_value (hlt : v / 2 ^ target < 2 ^ 53) :
    ((carried r target).1 * 2 ^ (carried r target).2 : ℚ) = r * 2 ^ target := by
  obtain hr | rfl := (h.le_of_lt hlt).lt_or_eq
  · simp [carried, hr]
  · simp only [carried, lt_irrefl, ↓reduceIte]
    rw [zpow_add_one₀ two_ne_zero]
    push_cast
    ring

theorem isNear_carry (hr : r = 2 * leadingBit) (hleast : -1074 ≤ target) :
    IsNormal leadingBit (target + 1) ∧ IsNear v leadingBit (target + 1) := by
  obtain ⟨hlow, hhigh, -⟩ := h
  have hhalf : v / 2 ^ (target + 1) = v / 2 ^ target / 2 := by
    rw [zpow_add_one₀ two_ne_zero, div_div]
  have hgap : gapBelow leadingBit (target + 1) = 1 / 4 := if_pos ⟨rfl, by omega⟩
  rw [hr] at hlow hhigh
  push_cast [cast_leadingBit] at hlow hhigh
  refine ⟨⟨by decide, by omega, .inl le_rfl⟩, isNear_of_scaled ?_ ?_ fun h => ?_⟩
  · rw [hgap, hhalf, cast_leadingBit]
    linarith
  · rw [hhalf, cast_leadingBit]
    linarith
  · exact absurd h (by decide)

theorem isNear_self (hge : target = -1074 ∨ 2 ^ 52 ≤ v / 2 ^ target) (hr : r < 2 * leadingBit)
    (hleast : -1074 ≤ target) : IsNormal r target ∧ IsNear v r target := by
  constructor
  · exact ⟨hr, hleast, hge.symm.imp_left h.le_of_le⟩
  · by_cases hpower : r = leadingBit ∧ -1074 < target
    case pos =>
      have hgap : gapBelow r target = 1 / 4 := if_pos hpower
      have hle : (r : ℚ) ≤ v / 2 ^ target := by
        rw [hpower.1, cast_leadingBit]
        exact hge.resolve_left hpower.2.ne'
      apply isNear_of_scaled
      · linarith
      · exact h.high
      · intro hodd
        rw [hpower.1] at hodd
        exact absurd hodd (by decide)
    case neg =>
      have hgap : gapBelow r target = 1 / 2 := if_neg hpower
      exact isNear_of_scaled (hgap ▸ h.low) h.high (hgap ▸ h.odd)

theorem isNear_carried (hlt : v / 2 ^ target < 2 ^ 53)
    (hge : target = -1074 ∨ 2 ^ 52 ≤ v / 2 ^ target) (hleast : -1074 ≤ target) :
    IsNormal (carried r target).1 (carried r target).2 ∧
      IsNear v (carried r target).1 (carried r target).2 := by
  rw [carried]
  split
  case isTrue hr => exact h.isNear_self hge hr hleast
  case isFalse hr => exact h.isNear_carry (by have := h.le_of_lt hlt; omega) hleast

end RoundsTo

theorem mantissa_ofMantissaAndAccuracy (m : ℕ) (accuracy : Accuracy) :
    (ExtendedMantissa.ofMantissaAndAccuracy m accuracy).mantissa = m := by
  obtain _ | (_ | _ | _) := accuracy <;> rfl

theorem roundWithAccuracy_eq (negative : Bool)
    (he : e ≤ binary.targetExponent (totalExponent m e))
    (h : Tells (.ofMantissaAndAccuracy m accuracy) (v / 2 ^ e)) :
    ∃ m' e', IsNormal m' e' ∧ IsNear v m' e' ∧
      roundWithAccuracy binary (signOf negative) m e accuracy = unpacked negative m' e' := by
  have hm := h.bounds
  rw [mantissa_ofMantissaAndAccuracy] at hm
  obtain ⟨hem, hplace⟩ : Tells (shiftToTargetExponent binary m e accuracy).1
      (v / 2 ^ binary.targetExponent (totalExponent m e)) ∧
        (shiftToTargetExponent binary m e accuracy).2 =
          binary.targetExponent (totalExponent m e) := tells_shiftToExponent h he
  have hdef : binary.targetExponent (totalExponent m e) = max (m.log2 + 1 + e - 53) (-1074) := rfl
  rw [roundWithAccuracy]
  generalize binary.targetExponent (totalExponent m e) = place at *
  generalize shiftToTargetExponent binary m e accuracy = shifted at *
  obtain ⟨em, place⟩ := shifted
  simp only at hem hplace ⊢
  subst hplace
  have hlt : v / 2 ^ place < 2 ^ 53 := lt_of_target hm (by omega)
  have hge : place = -1074 ∨ 2 ^ 52 ≤ v / 2 ^ place := by
    by_cases hleast : place = -1074
    · exact .inl hleast
    · have hzero : m ≠ 0 := by
        rintro rfl
        simp at hdef
        omega
      exact .inr (le_of_target hm hzero (by omega))
  obtain ⟨hnormal, hnear⟩ := hem.roundsTo.isNear_carried hlt hge (by omega)
  refine ⟨_, _, hnormal, hnear, ?_⟩
  rw [shift_carried (hem.roundsTo.le_of_lt hlt) (by omega)]
  rfl

theorem ofModel_pack_roundWithAccuracy (hd : 0 < den)
    (he : e ≤ binary.targetExponent (totalExponent m e))
    (h : Tells (.ofMantissaAndAccuracy m accuracy) (num / den / 2 ^ e)) :
    Float.ofModel (.pack (roundWithAccuracy binary (signOf negative) m e accuracy)) =
      ofRatio negative num den := by
  obtain ⟨m', e', hnormal, hnear, hrounded⟩ := roundWithAccuracy_eq negative he h
  rw [hrounded, pack_unpacked hnormal, hnear.ofRatio_eq hnormal hd]

theorem signOf_mul (s t : Bool) : signOf s * signOf t = signOf (s ^^ t) := by
  cases s <;> cases t <;> rfl

theorem signOf_div (s t : Bool) : signOf s / signOf t = signOf (s ^^ t) := by
  cases s <;> cases t <;> rfl

theorem ofRatio_zero (negative : Bool) (den : ℕ) :
    ofRatio negative 0 den = .ofModel (.pack (.zero (signOf negative))) := by
  have hbits : ofRatio negative 0 den = ofMagnitudeBits negative 0 := by simp [ofRatio]
  rw [hbits]
  cases negative <;> rfl

theorem unpacked_zero (negative : Bool) (e : ℤ) : unpacked negative 0 e = .zero (signOf negative) :=
  rfl

theorem le_log2_of_leadingBit_le (h : leadingBit ≤ m) : 52 ≤ m.log2 := by
  have hm : m ≠ 0 := by
    rintro rfl
    exact absurd h (by decide)
  exact (Nat.le_log2 hm).2 h

theorem tells_quotient {a b : ℕ} (hb : 0 < b) :
    Tells (.ofMantissaAndAccuracy (a / b) (accuracyOfFraction (a % b) b)) (a / b) := by
  have hb' : (0 : ℚ) < b := by exact_mod_cast hb
  have hdivision : (a / b : ℚ) = (a / b : ℕ) + (a % b : ℕ) / b := by
    have hparts : (a : ℚ) = b * (a / b : ℕ) + (a % b : ℕ) := by
      exact_mod_cast (Nat.div_add_mod a b).symm
    field_simp
    linarith
  have hrest : ((a % b : ℕ) / b : ℚ) < 1 := by
    rw [div_lt_one hb']
    exact_mod_cast Nat.mod_lt a hb
  rw [hdivision, accuracyOfFraction]
  by_cases hzero : a % b = 0
  case pos => simp [hzero, ExtendedMantissa.ofMantissaAndAccuracy, Tells]
  case neg =>
    have hpos : (0 : ℚ) < (a % b : ℕ) / b := by
      have : (0 : ℚ) < (a % b : ℕ) := by exact_mod_cast Nat.pos_of_ne_zero hzero
      positivity
    rw [if_neg hzero]
    cases hcompare : compare (2 * (a % b)) b with
    | lt =>
      have hhalf : ((a % b : ℕ) / b : ℚ) < 1 / 2 := by
        rw [div_lt_iff₀ hb']
        have : (2 * (a % b : ℕ) : ℚ) < b := by exact_mod_cast Nat.compare_eq_lt.1 hcompare
        linarith
      exact ⟨lt_add_of_pos_right _ hpos, (add_lt_add_iff_left _).2 hhalf⟩
    | eq =>
      have hhalf : ((a % b : ℕ) / b : ℚ) = 1 / 2 := by
        rw [div_eq_iff hb'.ne']
        have : (2 * (a % b : ℕ) : ℚ) = b := by exact_mod_cast Nat.compare_eq_eq.1 hcompare
        linarith
      exact congrArg _ hhalf
    | gt =>
      have hhalf : (1 / 2 : ℚ) < (a % b : ℕ) / b := by
        rw [lt_div_iff₀ hb']
        have : (b : ℚ) < 2 * (a % b : ℕ) := by exact_mod_cast Nat.compare_eq_gt.1 hcompare
        linarith
      exact ⟨(add_lt_add_iff_left _).2 hhalf, (add_lt_add_iff_left _).2 hrest⟩

theorem log2_mul_two_pow (hm : m ≠ 0) (k : ℕ) : (m * 2 ^ k).log2 = m.log2 + k := by
  induction k with
  | zero => simp
  | succ k ih =>
    rw [pow_succ, ← mul_assoc, mul_comm, Nat.log2_two_mul (by positivity), ih, Nat.add_assoc]

-- A quotient has the digits by which the dividend is longer, or one less.
theorem log2_le_of_quotient {a b : ℕ} (ha : a ≠ 0) (hb : 0 < b) :
    a.log2 ≤ (a / b).log2 + 1 + b.log2 := by
  have hlt : a < 2 ^ ((a / b).log2 + 1 + (b.log2 + 1)) := by
    calc a < (a / b + 1) * b := Nat.lt_mul_of_div_lt (Nat.lt_succ_self _) hb
      _ ≤ 2 ^ ((a / b).log2 + 1) * 2 ^ (b.log2 + 1) :=
        Nat.mul_le_mul Nat.lt_log2_self Nat.lt_log2_self.le
      _ = 2 ^ ((a / b).log2 + 1 + (b.log2 + 1)) := (pow_add _ _ _).symm
  have := (Nat.log2_lt ha).2 hlt
  omega

section Operations

variable (hx : parts x = .finite s m e) (hy : parts y = .finite t n f) (hd : 0 < den)
include hx hy hd

-- A product of mantissas has enough digits, or both factors have the least exponent.
theorem mul_eq_ofRatio (h : (num / den : ℚ) = m * 2 ^ e * (n * 2 ^ f)) :
    x * y = ofRatio (s ^^ t) num den := by
  obtain ⟨-, -, hm, -, -⟩ := parts_eq_finite hx
  obtain ⟨-, -, hn, -, -⟩ := parts_eq_finite hy
  have hd' : (den : ℚ) ≠ 0 := by exact_mod_cast hd.ne'
  show Float.ofModel (.pack (UnpackedFloat.mul binary x.toModel.unpack y.toModel.unpack)) = _
  rw [unpack_of_parts hx, unpack_of_parts hy]
  by_cases hzero : m = 0 ∨ n = 0
  case pos =>
    have hnum : num = 0 := by
      obtain rfl | rfl := hzero <;> simpa [hd'] using h
    rw [hnum, ofRatio_zero, ← signOf_mul]
    obtain rfl | rfl := hzero <;> rw [unpacked_zero, unpacked] <;> split <;> rfl
  case neg =>
    push Not at hzero
    have hm₀ := Nat.pos_of_ne_zero hzero.1
    have hn₀ := Nat.pos_of_ne_zero hzero.2
    rw [← unpacked_of_pos hm₀ rfl, ← unpacked_of_pos hn₀ rfl]
    simp only [UnpackedFloat.mul, signOf_mul]
    apply ofModel_pack_roundWithAccuracy hd
    · have hdigits : 52 ≤ (m * n).log2 ∨ e + f ≤ -1074 := by
        obtain hm | hm := hm.leading
        · exact .inl (le_log2_of_leadingBit_le (hm.trans (Nat.le_mul_of_pos_right m hn₀)))
        · obtain hn | hn := hn.leading
          · exact .inl (le_log2_of_leadingBit_le (hn.trans (Nat.le_mul_of_pos_left n hm₀)))
          · exact .inr (by omega)
      rw [targetExponent_eq, totalExponent]
      omega
    · have hexact : (num / den / 2 ^ (e + f) : ℚ) = (m * n : ℕ) := by
        rw [h, zpow_add₀ two_ne_zero]
        push_cast
        field_simp
      exact hexact

-- The dividend is shifted up until the quotient has enough digits, or the least exponent.
theorem div_eq_ofRatio (hn₀ : n ≠ 0) (h : (num / den : ℚ) = m * 2 ^ e / (n * 2 ^ f)) :
    x / y = ofRatio (s ^^ t) num den := by
  have hd' : (den : ℚ) ≠ 0 := by exact_mod_cast hd.ne'
  have hn : 0 < n := Nat.pos_of_ne_zero hn₀
  show Float.ofModel (.pack (UnpackedFloat.div binary x.toModel.unpack y.toModel.unpack)) = _
  rw [unpack_of_parts hx, unpack_of_parts hy, ← unpacked_of_pos hn rfl]
  by_cases hzero : m = 0
  case pos =>
    subst hzero
    have hnum : num = 0 := by simpa [hd'] using h
    rw [hnum, ofRatio_zero, ← signOf_div, unpacked_zero]
    rfl
  case neg =>
    have hm : 0 < m := Nat.pos_of_ne_zero hzero
    rw [← unpacked_of_pos hm rfl]
    have hplace := targetExponent_eq (totalExponent m e - totalExponent n f)
    simp only [UnpackedFloat.div, divCore, signOf_div]
    generalize binary.targetExponent (totalExponent m e - totalExponent n f) = target at *
    obtain ⟨k, hk⟩ : ∃ k : ℕ, e - f - min (e - f) target = k := Int.eq_ofNat_of_zero_le (by omega)
    rw [hk, Int.toNat_natCast, Nat.shiftLeft_eq]
    apply ofModel_pack_roundWithAccuracy hd
    · have hlog := log2_le_of_quotient (a := m * 2 ^ k) (by positivity) hn
      rw [log2_mul_two_pow hzero] at hlog
      simp only [totalExponent, targetExponent_eq] at hplace ⊢
      omega
    · have hshift : min (e - f) target = e - f - k := by omega
      have hexact : (num / den / 2 ^ min (e - f) target : ℚ) = (m * 2 ^ k : ℕ) / n := by
        rw [h, hshift, zpow_sub₀ two_ne_zero, zpow_sub₀ two_ne_zero, zpow_natCast]
        push_cast
        field_simp
      rw [hexact]
      exact tells_quotient hn

end Operations

end Rulebook.Number
