import Rulebook.Function.Registry

/-!
Reading the arguments of a call.
-/

namespace Rulebook.Builtin

variable (function : String) (arguments : List Value) (index : Nat)

def invalid {α : Type} (fault : ArgumentFault) : Outcome α :=
  .error (.invalidArgument function fault)

def wrongType {α : Type} (expected : String) : Outcome α :=
  invalid function (.wrongType (index + 1) expected arguments[index]?)

def expectString : Outcome String :=
  match arguments[index]? with
  | some (.string s) => .ok s
  | _ => wrongType function arguments index "string"

def expectNumber : Outcome Float :=
  match arguments[index]? with
  | some (.number x) => .ok x
  | _ => wrongType function arguments index "number"

def expectList : Outcome (List Value) :=
  match arguments[index]? with
  | some (.list items) => .ok items
  | _ => wrongType function arguments index "list"

-- `- 2 ^ 63`.
def minInteger : Int := -9223372036854775808

-- `2 ^ 63 - 1`.
def maxInteger : Int := 9223372036854775807

-- A whole number, held within 64 bits.
def expectInteger : Outcome Int := do
  let x ← expectNumber function arguments index
  if Number.isWhole x then .ok (Number.clampToInt minInteger maxInteger x)
  else invalid function (.notWhole (index + 1) x)

-- The items of a call that takes either one list or the items themselves.
def listOrItems : List Value → List Value
  | [.list items] => items
  | arguments => arguments

-- The index of a position that counts from 1, or from the end if negative. Position 1 of nothing is
-- allowed.
def indexOfPosition (position : Int) (length : Nat) : Outcome Nat :=
  let index := if 0 < position then position - 1 else length + position
  if position = 0 ∨ index < 0 ∨ max length 1 ≤ index then
    invalid function (.outOfBounds position)
  else .ok index.toNat

-- The end of a part that starts at an index and has the length given as an argument, or goes on to
-- the end of the whole.
def partEnd (start whole : Nat) : Outcome Nat :=
  match arguments[index]? with
  | none => .ok whole
  | some _ => do
    let length ← expectInteger function arguments index
    if length < 0 then invalid function (.other "length must not be negative")
    else .ok (min (start + length.toNat) whole)

-- The part of a sequence that a call selects by its second and third argument.
def selectPart {α : Type} (items : List α) : Outcome (List α) := do
  let position ← expectInteger function arguments 1
  let start ← indexOfPosition function position items.length
  let finish ← partEnd function arguments 2 start items.length
  .ok ((items.take finish).drop start)

end Rulebook.Builtin
