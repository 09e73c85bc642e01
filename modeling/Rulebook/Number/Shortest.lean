import Rulebook.Number.Rounding

/-!
Shortest decimal text: of the decimal numbers that read back as the given number, one with the
fewest digits, and of those the nearest. The text is laid out without an exponent.
-/

namespace Rulebook.Number

-- The value is `digits * 10 ^ exponent`.
structure Decimal where
  digits : Nat
  exponent : Int
  deriving DecidableEq, Repr

-- The ratios that read as one number, all over `unit`: `value` itself and the two bounds, which
-- belong to the interval if `closed`.
structure Interval where
  low : Nat
  value : Nat
  high : Nat
  unit : Nat
  closed : Bool

namespace Interval

-- Below a power of two the neighbour is nearer by half.
def ofParts (mantissa : Nat) (exponent : Int) : Interval :=
  let below := if mantissa = leadingBit ∧ -1074 < exponent then 1 else 2
  let scale := exponent - 2
  let factor := if 0 ≤ scale then Nat.pow 2 scale.toNat else 1
  { low := (4 * mantissa - below) * factor
    value := 4 * mantissa * factor
    high := (4 * mantissa + 2) * factor
    unit := if 0 ≤ scale then 1 else Nat.pow 2 (-scale).toNat
    closed := mantissa % 2 = 0 }

-- Whether `numerator / denominator` lies in the interval.
def contains (i : Interval) (numerator denominator : Nat) : Bool :=
  let point := numerator * i.unit
  if i.closed then i.low * denominator ≤ point && point ≤ i.high * denominator
  else i.low * denominator < point && point < i.high * denominator

-- The multiple of `10 ^ exponent` in the interval that is nearest to the value; `tieUp` tells whether
-- a tie goes up from the given multiple.
def onGrid? (i : Interval) (tieUp : Nat → Bool) (exponent : Int) : Option Nat :=
  let step := if 0 ≤ exponent then Nat.pow 10 exponent.toNat else 1
  let denominator := if 0 ≤ exponent then 1 else Nat.pow 10 (-exponent).toNat
  let below := i.value * denominator / (i.unit * step)
  let low := i.contains (below * step) denominator
  let high := i.contains ((below + 1) * step) denominator
  let double := 2 * (i.value * denominator % (i.unit * step))
  let nearer := double < i.unit * step || (double == i.unit * step && !tieUp below)
  if low && (!high || nearer) then some below
  else if high then some (below + 1)
  else none

-- The first grid, going to finer ones, that has a point in the interval.
def search (i : Interval) (tieUp : Nat → Bool) : (steps : Nat) → (exponent : Int) → Decimal
  | 0, exponent => ⟨0, exponent⟩
  | steps + 1, exponent =>
    match i.onGrid? tieUp exponent with
    | some digits => ⟨digits, exponent⟩
    | none => i.search tieUp steps (exponent - 1)

end Interval

-- `10 ^ coarsest` is above every number with these parts and less than a thousand times too large,
-- and seventeen digits always suffice.
def shortest (tieUp : Nat → Bool) (mantissa : Nat) (exponent : Int) : Decimal :=
  if mantissa = 0 then ⟨0, 0⟩
  else
    let coarsest := ((Nat.log2 mantissa : Int) + 1 + exponent) * 30103 / 100000 + 1
    (Interval.ofParts mantissa exponent).search tieUp 24 coarsest

namespace Decimal

def zeros (n : Nat) : List Char :=
  List.replicate n '0'

-- Positional notation: no exponent, no point in a whole number.
def positional (d : Decimal) : List Char :=
  let text := Nat.toDigits 10 d.digits
  if 0 ≤ d.exponent then
    if d.digits = 0 then ['0'] else text ++ zeros d.exponent.toNat
  else
    let places := (-d.exponent).toNat
    let padded := zeros (places + 1 - text.length) ++ text
    let whole := padded.length - places
    padded.take whole ++ '.' :: padded.drop whole

end Decimal

def signText (negative : Bool) : String :=
  if negative then "-" else ""

-- A tie between two shortest decimals goes up.
def text (x : Float) : String :=
  match parts x with
  | .undefined => "NaN"
  | .infinite negative => signText negative ++ "inf"
  | .finite negative mantissa exponent =>
    signText negative ++ String.ofList (shortest (fun _ => true) mantissa exponent).positional

end Rulebook.Number
