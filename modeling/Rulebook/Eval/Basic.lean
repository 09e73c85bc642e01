import Rulebook.Eval.Operators
import Rulebook.Eval.Scope
import Rulebook.Function.Registry

/-!
Evaluation of expressions. Operands are evaluated from left to right and the first error is the
answer.
-/

namespace Rulebook

-- Whether the test holds for an item; items after the deciding one are not looked at.
def someHolds (test : Value → Outcome Value) : List Value → Outcome Bool
  | [] => .ok false
  | v :: vs => do if (← test v).isTrue then .ok true else someHolds test vs

def everyHolds (test : Value → Outcome Value) : List Value → Outcome Bool
  | [] => .ok true
  | v :: vs => do if (← test v).isTrue then everyHolds test vs else .ok false

def forEach (body : Value → Outcome Value) : List Value → Outcome (List Value)
  | [] => .ok []
  | v :: vs => do
    let first ← body v
    let others ← forEach body vs
    .ok (first :: others)

def selectWhere (test : Value → Outcome Value) : List Value → Outcome (List Value)
  | [] => .ok []
  | v :: vs => do
    let keep := (← test v).isTrue
    let others ← selectWhere test vs
    .ok (if keep then v :: others else others)

def Literal.value : Literal → Value
  | .number x => .number x
  | .string s => .string s
  | .boolean b => .boolean b
  | .null => .null

-- The name under which a filter sees the item it looks at.
def itemName : String := "item"

def entriesOf : Value → Context
  | .context entries => entries
  | _ => .empty

-- A filter sees the entries of the item as well, but none in place of the item itself.
def itemFrame (item : Value) : Context :=
  (itemName, item) :: (entriesOf item).filter (·.1 != itemName)

-- The filter speaks of the item or of an entry of some item.
def bindsItemNames (predicate : Expr) (items : List Value) : Bool :=
  predicate.mentions itemName ||
    items.any fun item => (entriesOf item).any fun e => predicate.mentions e.1

-- `outer` is the filter's answer where there is no item. A number selects by position; an error
-- counts only if the filter does not depend on the item.
def filterItems (predicate : Expr) (outer : Outcome Value) (test : Value → Outcome Value)
    (items : List Value) : Outcome Value :=
  match outer with
  | .ok (.number position) => .ok (Value.elementAt items position)
  | .ok _ => (selectWhere test items).map .list
  | .error e =>
    if bindsItemNames predicate items then (selectWhere test items).map .list else .error e

-- The right operand is not looked at if the left one decides.
def decidesAlone (op : BinaryOp) (left : Value) : Bool :=
  match op, left with
  | .and, .boolean b => !b
  | .or, .boolean b => b
  | _, _ => false

mutual

def eval (r : Registry) (scope : Scope) : Expr → Outcome Value
  | .literal l => .ok l.value
  | .reference path => .ok (scope.resolve path)
  | .binary op left right => do
    let l ← eval r scope left
    if decidesAlone op l then .ok l else Value.binary op l (← eval r scope right)
  | .unary op operand => do Value.unary op (← eval r scope operand)
  | .range lower upper i j => do
    let l ← eval r scope lower
    let u ← eval r scope upper
    .ok (.range l u i j)
  | .list items => (evalItems r scope items).map .list
  | .context entries => (evalEntries r scope .empty entries).map .context
  | .call function arguments => do r.call function (← evalItems r scope arguments)
  | .property base key => do .ok ((← eval r scope base).property key)
  | .conditional condition yes no => do
    if (← eval r scope condition).isTrue then eval r scope yes else eval r scope no
  | .loop name source body => do
    match ← Value.iterationItems (← eval r scope source) with
    | none => .ok .null
    | some items => (forEach (fun v => eval r (scope.push [(name, v)]) body) items).map .list
  | .quantified quantifier name source predicate => do
    match ← Value.iterationItems (← eval r scope source) with
    | none => .ok .null
    | some items =>
      let test v := eval r (scope.push [(name, v)]) predicate
      match quantifier with
      | .some => (someHolds test items).map .boolean
      | .every => (everyHolds test items).map .boolean
  | .between operand lower upper => do
    let v ← eval r scope operand
    let l ← eval r scope lower
    let u ← eval r scope upper
    .ok (v.between l u)
  | .instanceOf operand typeName => do (← eval r scope operand).instanceOf typeName
  | .filter base predicate => do
    match ← Value.iterationItems (← eval r scope base) with
    | none => .ok .null
    | some items =>
      filterItems predicate (eval r scope predicate)
        (fun item => eval r (scope.push (itemFrame item)) predicate) items

def evalItems (r : Registry) (scope : Scope) : List Expr → Outcome (List Value)
  | [] => .ok []
  | e :: es => do
    let v ← eval r scope e
    let vs ← evalItems r scope es
    .ok (v :: vs)

-- Each entry sees those before it, kept in `done`.
def evalEntries (r : Registry) (scope : Scope) (done : Context) :
    List (String × Expr) → Outcome Context
  | [] => .ok done
  | (key, e) :: es => do
    let v ← eval r (scope.push done) e
    evalEntries r scope (done.insert key v) es

end

def evaluate (r : Registry) (e : Expr) (context : Context) : Outcome Value :=
  eval r [context] e

end Rulebook
