import Rulebook.Builtin.Arguments
import Rulebook.Eval.Operators

/-!
Functions of numbers.
-/

namespace Rulebook.Number

-- Repeated squaring; each step takes a binary digit of the exponent.
def powerBySquaring (base acc : Float) : (digits exponent : Nat) → Float
  | 0, _ => acc
  | digits + 1, exponent =>
    let acc := if exponent % 2 = 1 then acc * base else acc
    if exponent / 2 = 0 then acc else powerBySquaring (base * base) acc digits (exponent / 2)

def wholePower (base : Float) (exponent : Int) : Float :=
  let power := powerBySquaring base 1 64 exponent.natAbs
  if exponent < 0 then 1 / power else power

-- A half goes to the even neighbour.
def roundToEven (x : Float) : Float :=
  let rounded := round x
  if equal (rounded - x).abs 0.5 && isOdd rounded then
    if isNegative x then rounded + 1 else rounded - 1
  else rounded

-- Rounds at a decimal place, to the right of the point if positive.
def roundAt (rounding : Float → Float) (x : Float) (places : Int) : Float :=
  let factor := wholePower 10 (max (-308) (min 308 places))
  rounding (x * factor) / factor

end Rulebook.Number

namespace Rulebook.Builtin

def numberOfText (s : String) : Outcome Value :=
  match (Number.read? (Text.trim s).toList).filter Number.isFinite with
  | some x => .ok (.number x)
  | none => invalid "number" (.other ("not a number: " ++ Text.quoted s))

def toNumber (arguments : List Value) : Outcome Value :=
  match arguments with
  | .number x :: _ => .ok (.number x)
  | .string s :: _ => numberOfText s
  | v :: _ => invalid "number" (.other ("cannot convert " ++ v.typeName ++ " to number"))
  | [] => wrongType "number" arguments 0 "number"

def squareRoot (arguments : List Value) : Outcome Value := do
  let x ← expectNumber "sqrt" arguments 0
  if Number.less x 0 then invalid "sqrt" (.other "negative operand") else .ok (.number x.sqrt)

def remainder (arguments : List Value) : Outcome Value := do
  let dividend ← expectNumber "modulo" arguments 0
  let divisor ← expectNumber "modulo" arguments 1
  match Number.modulo? dividend divisor with
  | some x => .ok (.number x)
  | none => .error .divisionByZero

def roundToPlaces (arguments : List Value) : Outcome Value := do
  let x ← expectNumber "round" arguments 0
  let places ← if arguments.length < 2 then .ok 0 else expectInteger "round" arguments 1
  .ok (.number (Number.roundAt Number.round x places))

def decimalToPlaces (arguments : List Value) : Outcome Value := do
  let x ← expectNumber "decimal" arguments 0
  let places ← expectInteger "decimal" arguments 1
  .ok (.number (Number.roundAt Number.roundToEven x places))

-- A function of one number.
def numeric (name : String) (f : Float → Float) : Function :=
  ⟨name, .exact 1, true, fun arguments => do .ok (.number (f (← expectNumber name arguments 0)))⟩

-- A test of one whole number.
def parity (name : String) (accept : Int → Bool) : Function :=
  ⟨name, .exact 1, true, fun arguments => do
    .ok (.boolean (accept (← expectInteger name arguments 0)))⟩

def arithmetic : List Function :=
  [numeric "abs" Float.abs,
   numeric "floor" Number.floor,
   numeric "ceiling" Number.ceiling,
   ⟨"decimal", .exact 2, true, decimalToPlaces⟩,
   ⟨"round", .range 1 2, true, roundToPlaces⟩,
   ⟨"modulo", .exact 2, true, remainder⟩,
   ⟨"sqrt", .exact 1, true, squareRoot⟩,
   ⟨"number", .exact 1, true, toNumber⟩,
   parity "odd" fun n => n % 2 != 0,
   parity "even" fun n => n % 2 == 0]

end Rulebook.Builtin
