import Rulebook.Json.Basic

/-!
The numbers of JSON text. A numeral without fraction and exponent is a whole number if it fits into
64 bits. Any other is read as a 64-bit significand, whose further digits are dropped, and one power
of ten.
-/

namespace Rulebook.Json

structure Numeral where
  negative : Bool
  whole : List Char
  fraction : List Char
  exponent : Option Int

-- The significand, and the power of ten that goes with it.
structure Significand where
  digits : Nat
  exponent : Int

namespace Significand

def push? (s : Significand) (c : Char) : Option Nat :=
  let digits := s.digits * 10 + Number.digitValue c
  if digits < UInt64.size then some digits else none

-- Once a digit does not fit, all that follow are counted only.
def addWhole (s : Significand) : List Char → Significand
  | [] => s
  | c :: rest =>
    match s.push? c with
    | some digits => addWhole ⟨digits, s.exponent⟩ rest
    | none => ⟨s.digits, s.exponent + (c :: rest).length⟩

-- Once a digit does not fit, all that follow are dropped.
def addFraction (s : Significand) : List Char → Significand
  | [] => s
  | c :: rest =>
    match s.push? c with
    | some digits => addFraction ⟨digits, s.exponent - 1⟩ rest
    | none => s

-- Below the smallest power of ten the value is scaled in two steps.
def value (s : Significand) : Float :=
  let x := Number.ofInt s.digits
  let power (n : Nat) : Float := Number.ofRatio false (Nat.pow 10 n) 1
  if s.digits = 0 then 0
  else if 308 < s.exponent then Number.infinity false
  else if 0 ≤ s.exponent then x * power s.exponent.toNat
  else if -308 ≤ s.exponent then x / power (-s.exponent).toNat
  else if -616 ≤ s.exponent then x / power 308 / power (-s.exponent - 308).toNat
  else 0

end Significand

def Numeral.toJson (n : Numeral) : Json :=
  let whole : Int := Number.digitsValue n.whole
  let isWhole := n.fraction.isEmpty && n.exponent.isNone
  if isWhole && !n.negative && whole < UInt64.size then .integer whole
  else if isWhole && n.negative && 0 < whole && 2 * whole ≤ UInt64.size then .integer (-whole)
  else
    let s := (Significand.addWhole ⟨0, 0⟩ n.whole).addFraction n.fraction
    let x := Significand.value ⟨s.digits, s.exponent + n.exponent.getD 0⟩
    .real (if n.negative then -x else x)

end Rulebook.Json
