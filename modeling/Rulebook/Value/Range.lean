import Rulebook.Value.Text

/-!
Ranges: membership by the order of values, and the whole numbers that a range of numbers covers.
-/

namespace Rulebook.Value

-- A bound and whether it belongs to the range, seen from a value compared with it.
def onSide (inside : Ordering) (included : Bool) (o : Ordering) : Bool :=
  o == inside || (o == .eq && included)

-- No answer if the value has no order with a bound.
def rangeContains? (start finish : Value) (startIncluded finishIncluded : Bool) (v : Value) :
    Option Bool := do
  let fromStart ← compare? v start
  let fromFinish ← compare? v finish
  some (onSide .gt startIncluded fromStart && onSide .lt finishIncluded fromFinish)

def maxRangeItems : Nat := 1000000

-- `2 ^ 53`.
def maxExactInteger : Nat := 9007199254740992

inductive RangeItems
  | notWhole
  | tooMany
  | items (numbers : List Int)

-- The whole numbers from one bound to the other, upwards or downwards.
def wholeNumbers (start finish : Int) (startIncluded finishIncluded : Bool) : RangeItems :=
  if maxExactInteger < start.natAbs ∨ maxExactInteger < finish.natAbs then .tooMany
  else
    let step : Int := if start ≤ finish then 1 else -1
    let first := if startIncluded then start else start + step
    let last := if finishIncluded then finish else finish - step
    let count := (last - first) * step + 1
    if (maxRangeItems : Int) < count then .tooMany
    else .items ((List.range count.toNat).map fun (i : Nat) => first + i * step)

-- An infinite bound is no whole number.
def rangeItems (start finish : Value) (startIncluded finishIncluded : Bool) : RangeItems :=
  match start, finish with
  | number x, number y =>
    match Number.toInt? x, Number.toInt? y with
    | some m, some n => wholeNumbers m n startIncluded finishIncluded
    | _, _ => .notWhole
  | _, _ => .notWhole

def tooManyText (start finish : Value) : String :=
  "range " ++ start.text ++ ".." ++ finish.text ++ " covers more than " ++
    toString maxRangeItems ++ " integers"

end Rulebook.Value
