import Rulebook.Eval.Basic
import Rulebook.Syntax.Lexer

/-!
Matching a cell against the value of its input. The cell sees the input under the name `?` and
under the names of its column. It matches if one of its tests does; negated, if none does.
-/

namespace Rulebook

namespace Cell

def usableNames (names : List String) : List String :=
  names.filter (· != "")

def inputFrame (input : Value) (names : List String) : Context :=
  (usableNames names).foldl (fun frame name => frame.insert name input)
    [(Syntax.inputName, input)]

-- An expression that speaks of the input is a condition on it; any other is a value to compare.
def isPredicate (e : Expr) (names : List String) : Bool :=
  (Syntax.inputName :: usableNames names).any e.mentions

def testMatches (r : Registry) (scope : Scope) (input : Value) (names : List String) :
    CellTest → Outcome Bool
  | .comparison op e => do
    let v ← eval r scope e
    return (← Value.binary op input v).isTrue
  | .expression e => do
    let v ← eval r scope e
    return if isPredicate e names then v.isTrue else v.holds input

def anyMatches (r : Registry) (scope : Scope) (input : Value) (names : List String) :
    List CellTest → Outcome Bool
  | [] => .ok false
  | test :: others => do
    if ← testMatches r scope input names test then .ok true
    else anyMatches r scope input names others

def matches? (r : Registry) (cell : Cell) (input : Value) (names : List String)
    (context : Context) : Outcome Bool :=
  match cell with
  | any => .ok true
  | tests negated alternatives => do
    let found ← anyMatches r [inputFrame input names, context] input names alternatives
    return found != negated

end Cell

end Rulebook
