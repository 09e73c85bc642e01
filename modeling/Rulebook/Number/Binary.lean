/-!
Numbers are 64-bit binary floating point. This module takes a number apart, finds the number
nearest to a ratio, and compares numbers by a key that orders all of them but the undefined one.
-/

namespace Rulebook.Number

-- A finite number is `± mantissa * 2 ^ exponent`.
inductive Parts
  | undefined
  | infinite (negative : Bool)
  | finite (negative : Bool) (mantissa : Nat) (exponent : Int)
  deriving DecidableEq, Repr

-- `2 ^ 63`.
def signBit : Nat := 9223372036854775808

-- `2 ^ 52`, the leading digit of a mantissa, which the bits of a number leave out.
def leadingBit : Nat := 4503599627370496

def isNegative (x : Float) : Bool :=
  signBit ≤ x.toBits.toNat

def magnitudeBits (x : Float) : Nat :=
  x.toBits.toNat % signBit

def parts (x : Float) : Parts :=
  let exponent : Nat := magnitudeBits x / leadingBit
  let fraction : Nat := magnitudeBits x % leadingBit
  if exponent = 2047 then
    if fraction = 0 then .infinite (isNegative x) else .undefined
  else if exponent = 0 then
    .finite (isNegative x) fraction (-1074)
  else
    .finite (isNegative x) (leadingBit + fraction) ((exponent : Int) - 1075)

def isUndefined (x : Float) : Bool :=
  parts x == .undefined

def isFinite (x : Float) : Bool :=
  match parts x with
  | .finite .. => true
  | _ => false

def ofMagnitudeBits (negative : Bool) (bits : Nat) : Float :=
  Float.ofBits (UInt64.ofNat (if negative then signBit + bits else bits))

def infinity (negative : Bool) : Float :=
  ofMagnitudeBits negative (2047 * leadingBit)

def undefined : Float :=
  Float.ofBits 0x7ff8000000000000

-- `numerator / denominator` to the nearest whole number, a half to the even one.
def divideToEven (numerator denominator : Nat) : Nat :=
  let quotient := numerator / denominator
  let double := 2 * (numerator % denominator)
  if double < denominator ∨ (double = denominator ∧ quotient % 2 = 0) then quotient
  else quotient + 1

-- `numerator / denominator / 2 ^ exponent`, as a ratio again.
def scaleDown (numerator denominator : Nat) (exponent : Int) : Nat × Nat :=
  if 0 ≤ exponent then (numerator, denominator * Nat.pow 2 exponent.toNat)
  else (numerator * Nat.pow 2 (-exponent).toNat, denominator)

-- The exponent at which the ratio has 53 binary digits before the point, -1074 at least.
def ratioExponent (numerator denominator : Nat) : Int :=
  let low := max (-1074) ((Nat.log2 numerator : Int) - Nat.log2 denominator - 53)
  let scaled := scaleDown numerator denominator low
  if scaled.1 / scaled.2 < 2 * leadingBit then low else low + 1

-- The number nearest to `± numerator / denominator`, of two the one with the even mantissa. The
-- bits of a number count the magnitudes upwards, so a carry out of the mantissa needs no care.
def ofRatio (negative : Bool) (numerator denominator : Nat) : Float :=
  let exponent := ratioExponent numerator denominator
  let scaled := scaleDown numerator denominator exponent
  let bits :=
    if numerator = 0 then 0
    else (exponent + 1074).toNat * leadingBit + divideToEven scaled.1 scaled.2
  ofMagnitudeBits negative (min bits (2047 * leadingBit))

def ofInt (n : Int) : Float :=
  ofRatio (n < 0) n.natAbs 1

-- Both zeros have the key 0.
def key? (x : Float) : Option Int :=
  if isUndefined x then none
  else some (if isNegative x then -(magnitudeBits x : Int) else magnitudeBits x)

def compare? (x y : Float) : Option Ordering :=
  match key? x, key? y with
  | some i, some j => some (compare i j)
  | _, _ => none

def equal (x y : Float) : Bool :=
  compare? x y == some .eq

def less (x y : Float) : Bool :=
  compare? x y == some .lt

-- The order of `key?` with the negative zero below the positive one and the undefined number first.
def totalKey (x : Float) : Int :=
  if isUndefined x then -2 * signBit
  else if isNegative x then -(magnitudeBits x : Int) - 1
  else magnitudeBits x

theorem compare?_swap (x y : Float) : compare? y x = (compare? x y).map Ordering.swap := by
  simp only [compare?]
  cases key? x <;> cases key? y <;> simp
  exact (Int.compare_swap _ _).symm

theorem equal_comm (x y : Float) : equal x y = equal y x := by
  rw [equal, equal, compare?_swap x y]
  rcases compare? x y with _ | (_ | _ | _) <;> rfl

theorem equal_self_iff (x : Float) : equal x x = true ↔ isUndefined x = false := by
  simp only [equal, compare?, key?]
  cases isUndefined x <;> simp

end Rulebook.Number
