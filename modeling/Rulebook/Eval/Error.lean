import Rulebook.Syntax.Expr
import Rulebook.Value.Range

/-!
What can go wrong in an evaluation, and how it is reported.
-/

namespace Rulebook

-- How many arguments a function takes; the bounds of a range belong to it.
inductive Arity
  | exact (n : Nat)
  | range (low high : Nat)
  | atLeast (low : Nat)
  deriving DecidableEq, Repr

namespace Arity

def accepts : Arity → Nat → Bool
  | exact n, count => count == n
  | range low high, count => low ≤ count && count ≤ high
  | atLeast low, count => low ≤ count

def text : Arity → String
  | exact n => toString n
  | range low high => toString low ++ " to " ++ toString high
  | atLeast low => "at least " ++ toString low

end Arity

-- What is wrong with the arguments of a call. Arguments count from 1.
inductive ArgumentFault
  | wrongType (argument : Nat) (expected : String) (found : Option Value)
  | notWhole (argument : Nat) (x : Float)
  | outOfBounds (position : Int)
  | unsupportedFlag (flag : Char)
  | malformedPattern
  | patternTooLarge
  | other (text : String)

inductive EvalError
  | operands (op : BinaryOp) (left right : Value)
  | operand (v : Value)
  | unordered (function : String) (left right : Value)
  | unknownFunction (name : String)
  | wrongCount (name : String) (arity : Arity) (count : Nat)
  | invalidArgument (function : String) (fault : ArgumentFault)
  | malformed (m : Calendar.Malformed)
  | unknownType (name : String)
  | divisionByZero
  | binaryOverflow (op : BinaryOp) (left right : Value)
  | negateOverflow (v : Value)
  | rangeTooLarge (start finish : Value)

namespace ArgumentFault

def message : ArgumentFault → String
  | wrongType argument expected found =>
    "argument " ++ toString argument ++ " must be " ++ expected ++ ", got " ++
      (found.map Value.typeName).getD "nothing"
  | notWhole argument x =>
    "argument " ++ toString argument ++ " must be an integer, got " ++ Number.text x
  | outOfBounds position => "position " ++ toString position ++ " is out of bounds"
  | unsupportedFlag flag => "unsupported regex flag `" ++ String.singleton flag ++ "`"
  | malformedPattern => "regex parse error:"
  | patternTooLarge => "Compiled regex exceeds size limit of 10485760 bytes."
  | other text => text

end ArgumentFault

namespace EvalError

def message : EvalError → String
  | operands op left right =>
    "type mismatch: " ++ left.typeName ++ " " ++ op.text ++ " " ++ right.typeName
  | operand v => "type mismatch: -" ++ v.typeName
  | unordered function left right =>
    "type mismatch: " ++ function ++ " cannot order " ++ left.typeName ++ " against " ++
      right.typeName
  | unknownFunction name => "unknown function: " ++ name
  | wrongCount name arity count =>
    "function " ++ name ++ " expects " ++ arity.text ++ " argument(s), got " ++ toString count
  | invalidArgument function fault =>
    "invalid argument to " ++ function ++ ": " ++ fault.message
  | malformed m => "invalid " ++ m.kind.name ++ ": " ++ Text.quoted m.text
  | unknownType name => "unknown type name: " ++ name
  | divisionByZero => "division by zero"
  | binaryOverflow op left right =>
    "value out of range: " ++ left.text ++ " " ++ op.text ++ " " ++ right.text
  | negateOverflow v => "value out of range: -" ++ v.text
  | rangeTooLarge start finish => "value out of range: " ++ Value.tooManyText start finish

end EvalError

abbrev Outcome (α : Type) := Except EvalError α

end Rulebook
