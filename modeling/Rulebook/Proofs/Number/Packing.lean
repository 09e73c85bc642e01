import Rulebook.Proofs.Number.Nearest

/-!
Numbers apart and together. The sign, mantissa and exponent of a finite number are those that it is
computed with, and every mantissa of up to 53 digits with an exponent in the bounds is that of a
number; above the bounds it is packed as infinity.
-/

namespace Rulebook.Number

open Float.Model (UnpackedFloat)
open Float.Model.UnpackedFloat

variable {x : Float} {negative : Bool} {m : ℕ} {e : ℤ}

theorem parts_ofMagnitudeBits (negative : Bool) (h : IsNormal m e) (he : e ≤ 971) :
    parts (ofMagnitudeBits negative ((e + 1074).toNat * leadingBit + m)) =
      .finite negative m e := by
  obtain ⟨hlt, hleast, hleading⟩ := h
  have hle : (e + 1074).toNat * leadingBit + m ≤ 2047 * leadingBit := by
    simp only [leadingBit] at *
    omega
  simp only [parts, magnitudeBits_ofMagnitudeBits hle, isNegative_ofMagnitudeBits hle]
  cases Nat.lt_or_ge m leadingBit
  case inl hsmall =>
    have hexponent : e = -1074 := hleading.resolve_left (by omega)
    subst hexponent
    have hquotient : m / leadingBit = 0 := Nat.div_eq_of_lt hsmall
    simp [hquotient, Nat.mod_eq_of_lt hsmall]
  case inr hlarge =>
    have hquotient : ((e + 1074).toNat * leadingBit + m) / leadingBit = (e + 1074).toNat + 1 := by
      simp only [leadingBit] at *
      omega
    have hrest : ((e + 1074).toNat * leadingBit + m) % leadingBit = m - leadingBit := by
      simp only [leadingBit] at *
      omega
    rw [hquotient, hrest, if_neg (by omega), if_neg (by omega)]
    simp only [Parts.finite.injEq, true_and]
    omega

def signOf (negative : Bool) : Sign :=
  if negative then .negative else .positive

-- A finite number as operands and outcomes of the arithmetic are held.
def unpacked (negative : Bool) (m : ℕ) (e : ℤ) : UnpackedFloat :=
  if h : m = 0 then .zero (signOf negative)
  else .finite (signOf negative) m e (Nat.pos_of_ne_zero h)

theorem ofBitVec_unpackSign (x : Float) :
    Sign.ofBitVec (@unpackSign binary x.toBits.toBitVec) = signOf (isNegative x) := by
  have hlt := x.toBits.toNat_lt
  have hbit := toNat_unpackSign (b := x.toBits.toBitVec)
  cases hneg : isNegative x with
  | true =>
    rw [isNegative_iff] at hneg
    have hone : (@unpackSign binary x.toBits.toBitVec).toNat = 1 := by
      simp only [signBit, UInt64.toNat] at hneg hlt hbit ⊢
      omega
    rw [show @unpackSign binary x.toBits.toBitVec = 1#1 from BitVec.toNat_inj.1 hone]
    rfl
  | false =>
    have hneg : ¬signBit ≤ x.toBits.toNat := by
      rw [← isNegative_iff, hneg]
      exact Bool.false_ne_true
    have hzero : (@unpackSign binary x.toBits.toBitVec).toNat = 0 := by
      simp only [signBit, UInt64.toNat] at hneg hlt hbit ⊢
      omega
    rw [show @unpackSign binary x.toBits.toBitVec = 0#1 from BitVec.toNat_inj.1 hzero]
    rfl

theorem unpacked_of_pos {k : ℕ} (hk : 0 < k) (hm : k = m) :
    .finite (signOf negative) k e hk = unpacked negative m e := by
  subst hm
  rw [unpacked, dif_neg hk.ne']

theorem unpack_of_parts (h : parts x = .finite negative m e) :
    x.toModel.unpack = unpacked negative m e := by
  have hmantissa := toNat_unpackMantissa x.toBits.toBitVec
  have hexponent := toNat_unpackExponent (b := x.toBits.toBitVec)
  have hfields : magnitudeBits x / leadingBit = (@unpackExponent binary x.toBits.toBitVec).toNat ∧
      magnitudeBits x % leadingBit = (@unpackMantissa binary x.toBits.toBitVec).toNat := by
    simp only [magnitudeBits, signBit, leadingBit, UInt64.toNat] at hmantissa hexponent ⊢
    omega
  have htop : @unpackExponent binary x.toBits.toBitVec = -1#_ ↔
      (@unpackExponent binary x.toBits.toBitVec).toNat = 2047 := BitVec.toNat_inj.symm
  have hbottom : @unpackExponent binary x.toBits.toBitVec = 0#_ ↔
      (@unpackExponent binary x.toBits.toBitVec).toNat = 0 := BitVec.toNat_inj.symm
  have hnone : @unpackMantissa binary x.toBits.toBitVec = 0#_ ↔
      (@unpackMantissa binary x.toBits.toBitVec).toNat = 0 := BitVec.toNat_inj.symm
  simp only [parts, hfields.1, hfields.2] at h
  show unpack binary x.toBits.toBitVec = _
  simp only [unpack, ofBitVec_unpackSign]
  split at h
  case isTrue => split at h <;> cases h
  case isFalse h₁ =>
    rw [if_neg (mt htop.1 h₁)]
    split at h
    case isTrue h₂ =>
      rw [if_pos (hbottom.2 h₂)]
      cases h
      by_cases h₃ : @unpackMantissa binary x.toBits.toBitVec = 0#_
      · rw [dif_pos h₃, unpacked, dif_pos (hnone.1 h₃)]
      · rw [dif_neg h₃, unpacked, dif_neg (mt hnone.2 h₃), h₂]
        rfl
    case isFalse h₂ =>
      rw [if_neg (mt hbottom.1 h₂)]
      cases h
      have hlead : (1#1 ++ @unpackMantissa binary x.toBits.toBitVec).toNat =
          leadingBit + (@unpackMantissa binary x.toBits.toBitVec).toNat := by
        have hlt := (@unpackMantissa binary x.toBits.toBitVec).isLt
        have hadd := Nat.two_pow_add_eq_or_of_lt hlt 1
        simp only [BitVec.toNat_append]
        exact hadd.symm
      exact unpacked_of_pos _ hlead

theorem pack_unpacked (h : IsNormal m e) :
    Float.ofModel (.pack (unpacked negative m e)) =
      ofMagnitudeBits negative (min ((e + 1074).toNat * leadingBit + m) (2047 * leadingBit)) := by
  have ⟨hlt, hleast, hleading⟩ := h
  by_cases he : e ≤ 971
  case pos =>
    have hparts := parts_ofMagnitudeBits negative h he
    have hle : (e + 1074).toNat * leadingBit + m ≤ 2047 * leadingBit := by
      simp only [leadingBit] at *
      omega
    rw [Nat.min_eq_left hle, ← unpack_of_parts hparts]
    exact Float.ofBits_toBits _
  case neg =>
    have hge : 2047 * leadingBit ≤ (e + 1074).toNat * leadingBit + m := by
      simp only [leadingBit] at *
      omega
    have hm : 0 < m := by
      simp only [leadingBit] at *
      omega
    have hinfinite : pack binary (.finite (signOf negative) m e hm) =
        packedInfinity binary (signOf negative) := by
      have hbias : (binary.exponentBias : ℤ) = 1023 := rfl
      simp only [pack, hbias]
      exact if_pos (by omega)
    rw [Nat.min_eq_right hge, ← unpacked_of_pos hm rfl]
    apply eq_of_toNat_toBits
    rw [toNat_toBits_ofMagnitudeBits (Nat.le_refl _)]
    show (pack binary (.finite (signOf negative) m e hm)).toNat = _
    rw [hinfinite]
    cases negative <;> rfl

-- A finite number less itself is the zero without a sign.
theorem sub_self_of_parts (hx : parts x = .finite negative m e) : x - x = 0 := by
  have hzero : UnpackedFloat.sub binary x.toModel.unpack x.toModel.unpack = .zero .positive := by
    rw [unpack_of_parts hx, unpacked]
    split
    case isTrue => cases negative <;> rfl
    case isFalse =>
      simp only [UnpackedFloat.sub, Int.sub_self]
      rfl
  show Float.ofModel (.pack (UnpackedFloat.sub binary x.toModel.unpack x.toModel.unpack)) = 0
  rw [hzero]
  rfl

end Rulebook.Number
