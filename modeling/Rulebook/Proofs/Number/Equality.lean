import Rulebook.Number.Binary

/-!
Equality of numbers by their bits. Only the zeros are equal without being the same, and only the
undefined number is not equal to itself.
-/

namespace Rulebook.Number

variable {x y z : Float}

theorem equal_iff : equal x y = true ↔ ∃ i, key? x = some i ∧ key? y = some i := by
  simp only [equal, compare?]
  cases key? x with
  | none => simp
  | some i => cases key? y <;> simp [eq_comm (a := i)]

theorem equal_trans (h₁ : equal x y = true) (h₂ : equal y z = true) : equal x z = true := by
  obtain ⟨i, hx, hy⟩ := equal_iff.1 h₁
  obtain ⟨j, hy', hz⟩ := equal_iff.1 h₂
  exact equal_iff.2 ⟨i, hx, by simp_all⟩

theorem equal_zero_iff : equal x 0 = true ↔ key? x = some 0 := by
  have h₀ : key? 0 = some 0 := by decide
  simp [equal_iff, h₀]

theorem key?_eq_of_bits (h : x.toBits.toNat = y.toBits.toNat) : key? x = key? y := by
  have h := UInt64.toNat_inj.1 h
  unfold key? isUndefined parts isNegative magnitudeBits
  rw [h]

theorem toNat_toBits :
    x.toBits.toNat = (if isNegative x then signBit else 0) + magnitudeBits x := by
  have hlt := x.toBits.toNat_lt
  by_cases h : signBit ≤ x.toBits.toNat
  case pos =>
    have hneg : isNegative x = true := decide_eq_true h
    simp only [hneg, ↓reduceIte, magnitudeBits, signBit] at h ⊢
    omega
  case neg =>
    have hneg : isNegative x = false := decide_eq_false h
    simp only [hneg, Bool.false_eq_true, ↓reduceIte, magnitudeBits, signBit] at h ⊢
    omega

theorem eq_of_toNat_toBits (h : x.toBits.toNat = y.toBits.toNat) : x = y := by
  rcases x with ⟨a, ha⟩
  rcases y with ⟨b, hb⟩
  cases UInt64.toNat_inj.1 h
  rfl

theorem eq_of_bits (h₁ : isNegative x = isNegative y) (h₂ : magnitudeBits x = magnitudeBits y) :
    x = y :=
  eq_of_toNat_toBits (by rw [toNat_toBits, toNat_toBits, h₁, h₂])

theorem isUndefined_iff :
    isUndefined x = true ↔
      magnitudeBits x / leadingBit = 2047 ∧ magnitudeBits x % leadingBit ≠ 0 := by
  simp only [isUndefined, parts]
  by_cases h₁ : magnitudeBits x / leadingBit = 2047
  · by_cases h₂ : magnitudeBits x % leadingBit = 0 <;> simp [h₁, h₂]
  · simp only [h₁, ↓reduceIte, false_and, iff_false]
    split <;> simp

theorem isUndefined_of_isFinite (h : isFinite x = true) : isUndefined x = false := by
  simp only [isFinite] at h
  split at h
  case h_1 hx => simp [isUndefined, hx]
  case h_2 => cases h

theorem key?_eq_some_iff {i : Int} :
    key? x = some i ↔ isUndefined x = false ∧
      (if isNegative x then -(magnitudeBits x : Int) else magnitudeBits x) = i := by
  simp only [key?]
  cases isUndefined x <;> simp

theorem equal_zero_of_bits (h : x.toBits.toNat = 0) : equal x 0 = true := by
  have h₀ : (0 : Float).toBits.toNat = 0 := by decide
  rw [equal_zero_iff, key?_eq_of_bits (h.trans h₀.symm)]
  decide

theorem bits_eq_of_equal (h : equal x y = true) (h₀ : equal x 0 = false) :
    x.toBits.toNat = y.toBits.toNat := by
  obtain ⟨i, hx, hy⟩ := equal_iff.1 h
  have hi : i ≠ 0 := by
    rintro rfl
    simp [equal_zero_iff.2 hx] at h₀
  obtain ⟨-, hx⟩ := key?_eq_some_iff.1 hx
  obtain ⟨-, hy⟩ := key?_eq_some_iff.1 hy
  rw [toNat_toBits, toNat_toBits]
  split at hx <;> split at hy <;> simp_all <;> omega

theorem toBits_of_isUndefined (h : isUndefined x = true) :
    x.toBits.toBitVec = Float.Model.UnpackedFloat.packedNaN .binary64 := by
  rw [isUndefined_iff] at h
  have hlt := x.toBits.toNat_lt
  simp only [magnitudeBits, signBit, leadingBit] at h
  apply x.toModel.valid.eq_packedNaN
  · apply BitVec.eq_of_toNat_eq
    show x.toBits.toNat >>> 52 % 2048 = 2047
    rw [Nat.shiftRight_eq_div_pow]
    omega
  · intro h₀
    have h₁ : x.toBits.toNat >>> 0 % 4503599627370496 = 0 := congrArg BitVec.toNat h₀
    rw [Nat.shiftRight_zero] at h₁
    omega

-- There is only one undefined number.
theorem eq_of_isUndefined (hx : isUndefined x = true) (hy : isUndefined y = true) : x = y := by
  apply eq_of_toNat_toBits
  rw [← UInt64.toNat_toBitVec, ← UInt64.toNat_toBitVec, toBits_of_isUndefined hx,
    toBits_of_isUndefined hy]

end Rulebook.Number
