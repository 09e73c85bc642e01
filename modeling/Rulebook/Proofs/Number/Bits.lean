import Mathlib
import Rulebook.Proofs.Number.Equality

/-!
The bits of a number: the sign above the magnitude. Negation changes the sign alone, and the bits of
a magnitude that is no greater than the infinite one are those of a number.
-/

namespace Rulebook.Number

open Float.Model (Format)
open Float.Model.UnpackedFloat

variable {x y : Float} {b : BitVec 64}

abbrev binary : Format := .binary64

theorem toNat_unpackMantissa (b : BitVec 64) :
    (@unpackMantissa binary b).toNat = b.toNat % 4503599627370496 := by
  rw [unpackMantissa_def, BitVec.extractLsb'_toNat]
  rfl

theorem toNat_unpackExponent :
    (@unpackExponent binary b).toNat = b.toNat / 4503599627370496 % 2048 := by
  rw [unpackExponent_def, BitVec.extractLsb'_toNat, Nat.shiftRight_eq_div_pow]
  rfl

theorem toNat_unpackSign :
    (@unpackSign binary b).toNat = b.toNat / 9223372036854775808 % 2 := by
  rw [unpackSign_def, BitVec.extractLsb'_toNat, Nat.shiftRight_eq_div_pow]
  rfl

theorem isNaNBits_iff :
    @isNaNBits binary b = true ↔
      b.toNat / 4503599627370496 % 2048 = 2047 ∧ b.toNat % 4503599627370496 ≠ 0 := by
  rw [isNaNBits, decide_eq_true_iff]
  have h₁ : @unpackExponent binary b = -1#_ ↔ b.toNat / 4503599627370496 % 2048 = 2047 := by
    rw [← BitVec.toNat_inj, toNat_unpackExponent]
    rfl
  have h₂ : @unpackMantissa binary b = 0#_ ↔ b.toNat % 4503599627370496 = 0 := by
    rw [← BitVec.toNat_inj, toNat_unpackMantissa]
    rfl
  rw [h₁, ne_eq, h₂]

theorem toBits_ofBits {n : UInt64} (h : @isNaNBits binary n.toBitVec = false) :
    (Float.ofBits n).toBits = n := by
  refine UInt64.toBitVec_inj.1 ?_
  show pack binary (unpack binary n.toBitVec) = n.toBitVec
  rw [pack_unpack, h]
  rfl

-- The same bits with the other sign.
def flipSign (b : BitVec 64) : BitVec 64 :=
  packComponents binary (-(Sign.ofBitVec (@unpackSign binary b)))
    (@unpackExponent binary b) (@unpackMantissa binary b)

theorem unpack_flipSign : unpack binary (flipSign b) = (unpack binary b).neg := by
  simp only [unpack, flipSign, unpackMantissa_packComponents, unpackExponent_packComponents,
    unpackSign_packComponents, Sign.ofBitVec_toBitVec]
  split
  · split <;> rfl
  · split
    · split <;> rfl
    · rfl

theorem toNat_flipSign (b : BitVec 64) :
    (flipSign b).toNat = if 9223372036854775808 ≤ b.toNat then b.toNat - 9223372036854775808
      else b.toNat + 9223372036854775808 := by
  have hm : (flipSign b).toNat % 4503599627370496 = b.toNat % 4503599627370496 := by
    rw [← toNat_unpackMantissa, ← toNat_unpackMantissa, flipSign, unpackMantissa_packComponents]
  have he : (flipSign b).toNat / 4503599627370496 % 2048 = b.toNat / 4503599627370496 % 2048 := by
    rw [← toNat_unpackExponent, ← toNat_unpackExponent, flipSign, unpackExponent_packComponents]
  have hs : (flipSign b).toNat / 9223372036854775808 % 2 =
      (-(Sign.ofBitVec (@unpackSign binary b))).toBitVec.toNat := by
    rw [← toNat_unpackSign, flipSign, unpackSign_packComponents]
  have hflip : ∀ c : BitVec 1, (-(Sign.ofBitVec c)).toBitVec.toNat = 1 - c.toNat := by decide
  rw [hflip, toNat_unpackSign] at hs
  have h₁ := (flipSign b).isLt
  have h₂ := b.isLt
  split <;> omega

theorem isNaNBits_flipSign :
    @isNaNBits binary (flipSign b) = @isNaNBits binary b := by
  simp only [isNaNBits, flipSign, unpackExponent_packComponents, unpackMantissa_packComponents]

theorem isNaNBits_toBits : @isNaNBits binary x.toBits.toBitVec = isUndefined x := by
  rw [Bool.eq_iff_iff, isNaNBits_iff, isUndefined_iff]
  simp only [magnitudeBits, signBit, leadingBit, UInt64.toNat]
  omega

theorem toBits_neg (h : isUndefined x = false) :
    (-x).toBits.toBitVec = flipSign x.toBits.toBitVec := by
  show pack binary (unpack binary x.toBits.toBitVec).neg = _
  rw [← unpack_flipSign, pack_unpack, isNaNBits_flipSign, isNaNBits_toBits, h]
  rfl

theorem isNegative_iff : isNegative x = true ↔ signBit ≤ x.toBits.toNat :=
  decide_eq_true_iff

theorem isNegative_neg (h : isUndefined x = false) : isNegative (-x) = !isNegative x := by
  have hflip := toNat_flipSign x.toBits.toBitVec
  rw [← toBits_neg h] at hflip
  have hlt := x.toBits.toNat_lt
  rw [Bool.eq_iff_iff, Bool.not_eq_true', Bool.eq_false_iff, ne_eq, isNegative_iff, isNegative_iff]
  simp only [signBit, UInt64.toNat] at hflip hlt ⊢
  split at hflip <;> omega

theorem magnitudeBits_neg (h : isUndefined x = false) : magnitudeBits (-x) = magnitudeBits x := by
  have hflip := toNat_flipSign x.toBits.toBitVec
  rw [← toBits_neg h] at hflip
  have hlt := x.toBits.toNat_lt
  simp only [magnitudeBits, signBit, UInt64.toNat] at hflip hlt ⊢
  split at hflip <;> omega

theorem isUndefined_neg (h : isUndefined x = false) : isUndefined (-x) = false := by
  rw [Bool.eq_false_iff, ne_eq, isUndefined_iff] at h ⊢
  rwa [magnitudeBits_neg (Bool.eq_false_iff.2 (mt isUndefined_iff.1 h))]

theorem neg_neg (h : isUndefined x = false) : -(-x) = x := by
  have h' := isUndefined_neg h
  refine eq_of_bits ?_ ?_
  · rw [isNegative_neg h', isNegative_neg h, Bool.not_not]
  · rw [magnitudeBits_neg h', magnitudeBits_neg h]

theorem abs_unpack (h : Sign.ofBitVec (@unpackSign binary b) = .negative) :
    (unpack binary b).abs = (unpack binary b).neg := by
  simp only [unpack, h]
  split
  · split <;> rfl
  · split
    · split <;> rfl
    · rfl

theorem abs_eq_neg (h : isNegative x = true) : x.abs = -x := by
  have hsign : Sign.ofBitVec (@unpackSign binary x.toBits.toBitVec) = .negative := by
    have hbit : (@unpackSign binary x.toBits.toBitVec).toNat = 1 := by
      have hlt := x.toBits.toNat_lt
      rw [isNegative_iff] at h
      rw [toNat_unpackSign]
      simp only [signBit, UInt64.toNat] at h hlt ⊢
      omega
    rw [show @unpackSign binary x.toBits.toBitVec = 1#1 from BitVec.toNat_inj.1 hbit]
    rfl
  exact congrArg (fun u => Float.ofModel (Float.Model.pack u)) (abs_unpack hsign)

theorem toNat_toBits_ofMagnitudeBits {negative : Bool} {n : Nat} (h : n ≤ 2047 * leadingBit) :
    (ofMagnitudeBits negative n).toBits.toNat = (if negative then signBit else 0) + n := by
  have hlt : (if negative then signBit + n else n) < 2 ^ 64 := by
    simp only [signBit, leadingBit] at h ⊢
    split <;> omega
  have hn : (UInt64.ofNat (if negative then signBit + n else n)).toNat =
      if negative then signBit + n else n := by
    rw [UInt64.toNat_ofNat', Nat.mod_eq_of_lt hlt]
  rw [ofMagnitudeBits, toBits_ofBits, hn]
  · split <;> omega
  · rw [Bool.eq_false_iff, ne_eq, isNaNBits_iff]
    have hn' : (UInt64.ofNat (if negative then signBit + n else n)).toBitVec.toNat =
        if negative then signBit + n else n := hn
    rw [hn']
    simp only [signBit, leadingBit] at h ⊢
    split <;> omega

variable {negative : Bool} {n : Nat}

theorem isNegative_ofMagnitudeBits (h : n ≤ 2047 * leadingBit) :
    isNegative (ofMagnitudeBits negative n) = negative := by
  rw [Bool.eq_iff_iff, isNegative_iff, toNat_toBits_ofMagnitudeBits h]
  simp only [signBit, leadingBit] at h ⊢
  cases negative
  · simp only [Bool.false_eq_true, ↓reduceIte, iff_false]
    omega
  · simp

theorem magnitudeBits_ofMagnitudeBits (h : n ≤ 2047 * leadingBit) :
    magnitudeBits (ofMagnitudeBits negative n) = n := by
  rw [magnitudeBits, toNat_toBits_ofMagnitudeBits h]
  simp only [signBit, leadingBit] at h ⊢
  split <;> omega

theorem isUndefined_ofMagnitudeBits (h : n ≤ 2047 * leadingBit) :
    isUndefined (ofMagnitudeBits negative n) = false := by
  rw [Bool.eq_false_iff, ne_eq, isUndefined_iff, magnitudeBits_ofMagnitudeBits h]
  simp only [leadingBit] at h ⊢
  omega

theorem magnitudeBits_le (h : isUndefined x = false) : magnitudeBits x ≤ 2047 * leadingBit := by
  have hlt : magnitudeBits x < signBit := Nat.mod_lt _ (by decide)
  rw [Bool.eq_false_iff, ne_eq, isUndefined_iff] at h
  simp only [signBit, leadingBit] at h hlt ⊢
  omega

theorem ofMagnitudeBits_magnitudeBits (h : isUndefined x = false) :
    ofMagnitudeBits (isNegative x) (magnitudeBits x) = x :=
  eq_of_bits (isNegative_ofMagnitudeBits (magnitudeBits_le h))
    (magnitudeBits_ofMagnitudeBits (magnitudeBits_le h))

end Rulebook.Number
