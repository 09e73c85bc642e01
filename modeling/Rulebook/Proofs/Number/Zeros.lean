import Rulebook.Number.Rounding
import Rulebook.Proofs.Number.Equality

/-!
Numbers that are the same but, where their signs do not count, for zeros. Arithmetic, rounding and
comparison keep them so; a quotient does as long as the divisor is no zero.
-/

namespace Rulebook.Number

open Float.Model (UnpackedFloat pack)

def negativeZero : Float := ofMagnitudeBits true 0

-- Whether the two zeros are told apart.
inductive Zeros
  | signed | unsigned
  deriving DecidableEq

-- The same number, or two zeros whose signs do not count.
def Alike (zeros : Zeros) (x y : Float) : Prop :=
  x = y ∨ zeros = .unsigned ∧ equal x 0 = true ∧ equal y 0 = true

instance (zeros : Zeros) (x y : Float) : Decidable (Alike zeros x y) :=
  inferInstanceAs (Decidable (x = y ∨ _))

variable {zeros : Zeros} {x y z x' y' : Float} {α : Type}

theorem eq_zero_or_of_equal (h : equal x 0 = true) : x = 0 ∨ x = negativeZero := by
  obtain ⟨-, hkey⟩ := key?_eq_some_iff.1 (equal_zero_iff.1 h)
  have hbits : magnitudeBits x = 0 := by split at hkey <;> omega
  cases hsign : isNegative x with
  | false => exact .inl (eq_of_bits hsign hbits)
  | true => exact .inr (eq_of_bits hsign hbits)

namespace Alike

theorem refl (x : Float) : Alike zeros x x := .inl rfl

theorem symm (h : Alike zeros x y) : Alike zeros y x :=
  h.imp Eq.symm (.imp_right And.symm)

theorem trans (h₁ : Alike zeros x y) (h₂ : Alike zeros y z) : Alike zeros x z := by
  obtain rfl | ⟨hzeros, hx, hy⟩ := h₁
  · exact h₂
  · obtain rfl | ⟨-, -, hz⟩ := h₂
    · exact .inr ⟨hzeros, hx, hy⟩
    · exact .inr ⟨hzeros, hx, hz⟩

theorem eq (h : Alike .signed x y) : x = y :=
  h.resolve_right fun h => nomatch h.1

theorem eq_or_zeros (h : Alike zeros x y) : x = y ∨
    zeros = .unsigned ∧ (x = 0 ∧ y = negativeZero ∨ x = negativeZero ∧ y = 0) := by
  obtain rfl | ⟨hzeros, hx, hy⟩ := h
  · exact .inl rfl
  · obtain rfl | rfl := eq_zero_or_of_equal hx <;> obtain rfl | rfl := eq_zero_or_of_equal hy
    · exact .inl rfl
    · exact .inr ⟨hzeros, .inl ⟨rfl, rfl⟩⟩
    · exact .inr ⟨hzeros, .inr ⟨rfl, rfl⟩⟩
    · exact .inl rfl

-- What the two zeros are mapped to decides.
theorem map (h : Alike zeros x y) {f : Float → Float}
    (h₀ : Alike .unsigned (f 0) (f negativeZero)) : Alike zeros (f x) (f y) := by
  obtain rfl | ⟨rfl, ⟨rfl, rfl⟩ | ⟨rfl, rfl⟩⟩ := h.eq_or_zeros
  · exact refl _
  · exact h₀
  · exact h₀.symm

theorem map_eq (h : Alike zeros x y) {f : Float → α} (h₀ : f 0 = f negativeZero) : f x = f y := by
  obtain rfl | ⟨-, ⟨rfl, rfl⟩ | ⟨rfl, rfl⟩⟩ := h.eq_or_zeros
  · rfl
  · exact h₀
  · exact h₀.symm

theorem map₂ (hx : Alike zeros x x') (hy : Alike zeros y y') {f : Float → Float → Float}
    (left : ∀ y, Alike .unsigned (f 0 y) (f negativeZero y))
    (right : ∀ x, Alike .unsigned (f x 0) (f x negativeZero)) :
    Alike zeros (f x y) (f x' y') :=
  (hx.map (f := (f · y)) (left y)).trans (hy.map (right x'))

end Alike

-- Outcomes that are the same before they are packed into bits, or zeros.
inductive AlikeUnpacked : UnpackedFloat → UnpackedFloat → Prop
  | same (u : UnpackedFloat) : AlikeUnpacked u u
  | zeros (s s' : UnpackedFloat.Sign) : AlikeUnpacked (.zero s) (.zero s')

theorem AlikeUnpacked.pack {u v : UnpackedFloat} (h : AlikeUnpacked u v) :
    Alike .unsigned (.ofModel (pack u)) (.ofModel (pack v)) := by
  cases h with
  | same => exact .refl _
  | zeros s s' =>
    have hzero (s : UnpackedFloat.Sign) :
        equal (.ofModel (Float.Model.pack (.zero s))) 0 = true := by
      cases s <;> decide
    exact .inr ⟨rfl, hzero s, hzero s'⟩

namespace Alike

-- An operation that tells no zeros apart before its outcome is packed.
theorem ofUnpacked (op : UnpackedFloat → UnpackedFloat → UnpackedFloat)
    (left : ∀ u, AlikeUnpacked (op (.zero .positive) u) (op (.zero .negative) u))
    (right : ∀ u, AlikeUnpacked (op u (.zero .positive)) (op u (.zero .negative)))
    (hx : Alike zeros x x') (hy : Alike zeros y y') :
    Alike zeros (.ofModel (pack (op x.toModel.unpack y.toModel.unpack)))
      (.ofModel (pack (op x'.toModel.unpack y'.toModel.unpack))) := by
  let f (x y : Float) : Float := .ofModel (pack (op x.toModel.unpack y.toModel.unpack))
  have hleft (y : Float) : Alike .unsigned (f 0 y) (f negativeZero y) :=
    (left y.toModel.unpack).pack
  have hright (x : Float) : Alike .unsigned (f x 0) (f x negativeZero) :=
    (right x.toModel.unpack).pack
  exact map₂ hx hy hleft hright

theorem add (hx : Alike zeros x x') (hy : Alike zeros y y') : Alike zeros (x + y) (x' + y') := by
  refine ofUnpacked (.add .binary64) (fun u => ?_) (fun u => ?_) hx hy
  · rcases u with _ | _ | (_ | _) | _ <;> constructor
  · rcases u with _ | _ | (_ | _) | _ <;> constructor

theorem sub (hx : Alike zeros x x') (hy : Alike zeros y y') : Alike zeros (x - y) (x' - y') := by
  refine ofUnpacked (.sub .binary64) (fun u => ?_) (fun u => ?_) hx hy
  · rcases u with _ | _ | (_ | _) | _ <;> constructor
  · rcases u with _ | _ | (_ | _) | _ <;> constructor

theorem mul (hx : Alike zeros x x') (hy : Alike zeros y y') : Alike zeros (x * y) (x' * y') := by
  refine ofUnpacked (.mul .binary64) (fun u => ?_) (fun u => ?_) hx hy
  · rcases u with _ | _ | (_ | _) | _ <;> constructor
  · rcases u with _ | _ | (_ | _) | _ <;> constructor

-- The divisor must be the same: the sign of a zero decides that of an infinite quotient.
theorem div (h : Alike zeros x y) (z : Float) : Alike zeros (x / z) (y / z) := by
  refine h.map (f := (· / z)) (AlikeUnpacked.pack ?_)
  show AlikeUnpacked (.div .binary64 (.zero .positive) z.toModel.unpack)
    (.div .binary64 (.zero .negative) z.toModel.unpack)
  rcases z.toModel.unpack with _ | _ | (_ | _) | _ <;> constructor

theorem neg (h : Alike zeros x y) : Alike zeros (-x) (-y) :=
  h.map (f := fun x => -x) (by decide)

theorem sqrt (h : Alike zeros x y) : Alike zeros x.sqrt y.sqrt :=
  h.map (by decide)

theorem abs (h : Alike zeros x y) : Alike zeros x.abs y.abs :=
  h.map (by decide)

theorem floor (h : Alike zeros x y) : Alike zeros (Number.floor x) (Number.floor y) :=
  h.map (by decide +kernel)

theorem ceiling (h : Alike zeros x y) : Alike zeros (Number.ceiling x) (Number.ceiling y) :=
  h.map (by decide +kernel)

theorem round (h : Alike zeros x y) : Alike zeros (Number.round x) (Number.round y) :=
  h.map (by decide +kernel)

theorem fraction (h : Alike zeros x y) : Alike zeros (Number.fraction x) (Number.fraction y) :=
  h.map (by decide +kernel)

theorem toInt?_eq (h : Alike zeros x y) : toInt? x = toInt? y :=
  h.map_eq (by decide +kernel)

theorem key?_eq (h : Alike zeros x y) : key? x = key? y :=
  h.map_eq (by decide)

theorem compare?_eq (hx : Alike zeros x x') (hy : Alike zeros y y') :
    compare? x y = compare? x' y' := by
  simp only [compare?, hx.key?_eq, hy.key?_eq]

theorem equal_eq (hx : Alike zeros x x') (hy : Alike zeros y y') : equal x y = equal x' y' := by
  simp only [equal, compare?_eq hx hy]

theorem of_equal (h : equal x y = true) : Alike .unsigned x y := by
  cases hx : equal x 0 with
  | true => exact .inr ⟨rfl, hx, equal_trans (equal_comm x y ▸ h) hx⟩
  | false => exact .inl (eq_of_toNat_toBits (bits_eq_of_equal h hx))

-- Only the undefined number is like itself without being equal to itself.
theorem equal_of_self (h : Alike zeros x y) (hx : equal x x = true) : equal x y = true := by
  rwa [← equal_eq (.refl x) h]

-- Numbers are alike exactly if the order of numbers does not tell them apart.
theorem of_key?_eq (h : key? x = key? y) : Alike .unsigned x y := by
  cases hx : key? x with
  | some i => exact of_equal (equal_iff.2 ⟨i, hx, h ▸ hx⟩)
  | none =>
    have undefined {x : Float} (h : key? x = none) : isUndefined x = true := by
      simpa [key?] using h
    exact .inl (eq_of_isUndefined (undefined hx) (undefined (h ▸ hx)))

theorem isWhole_eq (h : Alike zeros x y) : isWhole x = isWhole y := by
  simp only [isWhole, h.toInt?_eq]

theorem clampToInt_eq (h : Alike zeros x y) (low high : Int) :
    clampToInt low high x = clampToInt low high y :=
  h.map_eq (by
    have h₀ : parts 0 = .finite false 0 (-1074) := by decide
    have h₁ : parts negativeZero = .finite true 0 (-1074) := by decide
    simp only [clampToInt, h₀, h₁, Nat.zero_mul, Nat.zero_div, ite_self, Int.natCast_zero,
      Int.neg_zero])

end Alike

-- A quotient by a number that is no zero.
theorem Alike.div_of_ne_zero (hx : Alike zeros x x') (hy : Alike zeros y y')
    (h₀ : equal y 0 = false) : Alike zeros (x / y) (x' / y') := by
  obtain rfl | ⟨-, hy, -⟩ := hy
  · exact hx.div y
  · simp [hy] at h₀

end Rulebook.Number
