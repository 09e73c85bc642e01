import Rulebook.Number.Binary

/-!
Whole numbers among the numbers: exact conversion, the four ways to round to a whole number, and
conversions that stop at the ends of a range.
-/

namespace Rulebook.Number

-- The whole number that `x` is, if it is one.
def toInt? (x : Float) : Option Int :=
  match parts x with
  | .finite negative mantissa exponent =>
    let signed : Int := if negative then -mantissa else mantissa
    let unit := Nat.pow 2 (-exponent).toNat
    if 0 ≤ exponent then some (signed * Nat.pow 2 exponent.toNat)
    else if mantissa % unit = 0 then some (signed / unit)
    else none
  | _ => none

def isWhole (x : Float) : Bool :=
  (toInt? x).isSome

-- `up negative rest unit` tells whether `rest / unit` of one is rounded away from zero.
def toWholeBy (up : (negative : Bool) → (rest unit : Nat) → Bool) (x : Float) : Float :=
  match parts x with
  | .finite negative mantissa exponent =>
    if 0 ≤ exponent then x
    else
      let unit := Nat.pow 2 (-exponent).toNat
      let whole := mantissa / unit
      ofRatio negative (if up negative (mantissa % unit) unit then whole + 1 else whole) 1
  | _ => x

def floor : Float → Float :=
  toWholeBy fun negative rest _ => negative && rest != 0

def ceiling : Float → Float :=
  toWholeBy fun negative rest _ => !negative && rest != 0

def truncate : Float → Float :=
  toWholeBy fun _ _ _ => false

-- A half goes away from zero.
def round : Float → Float :=
  toWholeBy fun _ rest unit => unit ≤ 2 * rest

def fraction (x : Float) : Float :=
  x - truncate x

-- The whole part, held between two bounds; the undefined number counts as zero.
def clampToInt (low high : Int) (x : Float) : Int :=
  match parts x with
  | .undefined => max low (min high 0)
  | .infinite negative => if negative then low else high
  | .finite negative mantissa exponent =>
    let magnitude :=
      if 0 ≤ exponent then mantissa * Nat.pow 2 exponent.toNat
      else mantissa / Nat.pow 2 (-exponent).toNat
    max low (min high (if negative then -(magnitude : Int) else magnitude))

def isOdd (x : Float) : Bool :=
  match toInt? x with
  | some n => n % 2 != 0
  | none => false

end Rulebook.Number
