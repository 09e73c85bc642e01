import Rulebook.Proofs.Eval.Relevance
import Rulebook.Eval.Cell

/-!
Cells as conditions on their input. A comparison stands for the operator with `?` as its left
operand, and a value to compare stands for `? in` it, so that every test can be written as an
expression that speaks of the input.
-/

namespace Rulebook

open Syntax (inputName)

def Cell.alternatives : Cell → List CellTest
  | any => []
  | tests _ alternatives => alternatives

-- The operators that may not look at their right operand.
def BinaryOp.isConnective (op : BinaryOp) : Bool :=
  op == .and || op == .or

def CellTest.asCondition (names : List String) : CellTest → Expr
  | comparison op e => .binary op (.reference inputName) e
  | expression e =>
    if Cell.isPredicate e names then e else .binary .isIn (.reference inputName) e

def Cell.asConditions (names : List String) : Cell → Cell
  | any => any
  | tests negated alternatives =>
    tests negated (alternatives.map fun test => .expression (test.asCondition names))

variable {r : Registry} {s : Scope} {c : Context} {input v : Value} {names : List String}
  {op : BinaryOp} {e : Expr} {test : CellTest}

theorem decidesAlone_of_isConnective (h : op.isConnective = false) :
    decidesAlone op v = false := by
  unfold decidesAlone
  split
  · cases h
  · cases h
  · rfl

-- A null is equal to no other value and in none.
theorem Value.isTrue_nullOr_holds (h : input.isNull = false) :
    (nullOr input v (holds v input)).isTrue = holds v input := by
  rw [nullOr, h, Bool.false_or]
  cases v with
  | null => cases input <;> first | rfl | cases h
  | _ => rfl

namespace Cell

theorem get?_inputFrame : (inputFrame input names).get? inputName = some input := by
  have hfold {frame : Context} (h : frame.get? inputName = some input) (names : List String) :
      Context.get? (names.foldl (fun frame name => frame.insert name input) frame) inputName =
        some input := by
    induction names generalizing frame with
    | nil => exact h
    | cons name names ih =>
      refine ih ?_
      by_cases hname : inputName = name
      · rw [hname, Context.get?_insert_self]
      · rw [Context.get?_insert_of_ne hname, h]
  exact hfold rfl (usableNames names)

theorem eval_input :
    eval r (s.push (inputFrame input names)) (.reference inputName) = .ok input := by
  rw [eval, Scope.resolve, Scope.get?_push, get?_inputFrame]
  rfl

theorem isPredicate_binary_input :
    isPredicate (.binary op (.reference inputName) e) names = true := by
  have hinput : (Expr.binary op (.reference inputName) e).mentions inputName = true :=
    List.any_eq_true.2 ⟨inputName, List.mem_append_left _ (List.mem_singleton_self _),
      by simp [Expr.pathMentions]⟩
  rw [isPredicate, List.any_cons, hinput, Bool.true_or]

-- A condition that starts from the input goes on as a comparison does.
theorem testMatches_binary_input (h : decidesAlone op input = false) :
    testMatches r (s.push (inputFrame input names)) input names
        (.expression (.binary op (.reference inputName) e)) =
      (eval r (s.push (inputFrame input names)) e >>= fun v =>
        (Value.binary op input v).map Value.isTrue) := by
  simp only [testMatches, isPredicate_binary_input, if_true]
  rw [eval, eval_input]
  show (ite _ _ _ >>= _) = _
  rw [h]
  cases eval r (s.push (inputFrame input names)) e with
  | error e => rfl
  | ok v => rfl

theorem testMatches_asCondition (hinput : input.isNull = false)
    (hop : ∀ op e, test = .comparison op e → op.isConnective = false) :
    testMatches r (s.push (inputFrame input names)) input names
        (.expression (test.asCondition names)) =
      testMatches r (s.push (inputFrame input names)) input names test := by
  cases test with
  | comparison op e =>
    rw [CellTest.asCondition,
      testMatches_binary_input (decidesAlone_of_isConnective (hop op e rfl))]
    rfl
  | expression e =>
    rw [CellTest.asCondition]
    split
    case isTrue => rfl
    case isFalse hpredicate =>
      rw [testMatches_binary_input (decidesAlone_of_isConnective rfl), testMatches]
      refine congrArg _ (funext fun v => ?_)
      rw [if_neg hpredicate, ← Value.isTrue_nullOr_holds hinput]
      rfl

theorem anyMatches_asCondition (hinput : input.isNull = false) {alternatives : List CellTest}
    (hop : ∀ op e, .comparison op e ∈ alternatives → op.isConnective = false) :
    anyMatches r (s.push (inputFrame input names)) input names
        (alternatives.map fun test => .expression (test.asCondition names)) =
      anyMatches r (s.push (inputFrame input names)) input names alternatives := by
  induction alternatives with
  | nil => rfl
  | cons test alternatives ih =>
    have htest : testMatches r (s.push (inputFrame input names)) input names
        (.expression (test.asCondition names)) =
          testMatches r (s.push (inputFrame input names)) input names test :=
      testMatches_asCondition hinput fun op e h => hop op e (h ▸ List.mem_cons_self)
    rw [List.map_cons, anyMatches, anyMatches, htest,
      ih fun op e h => hop op e (List.mem_cons_of_mem _ h)]

-- Of the operators that can stand in front of a test of a cell, none is a connective.
theorem matches?_asConditions {cell : Cell} (hinput : input.isNull = false)
    (hop : ∀ op e, .comparison op e ∈ cell.alternatives → op.isConnective = false) :
    matches? r (cell.asConditions names) input names c = matches? r cell input names c := by
  cases cell with
  | any => rfl
  | tests negated alternatives =>
    rw [asConditions, matches?, matches?]
    exact congrArg (· >>= _) (anyMatches_asCondition (s := [c]) hinput hop)

-- `not(< 18, [20, [30..40]], f())` for an age of 35; there is no function `f`.
theorem matches?_asConditions_ages :
    let number (x : Float) : Expr := .literal (.number x)
    let cell : Cell := .tests true [.comparison .less (number 18),
      .expression (.list [number 20, .range (number 30) (number 40) true true]),
      .expression (.call "f" [])]
    (Value.number 35).isNull = false ∧
      (∀ op e, .comparison op e ∈ cell.alternatives → op.isConnective = false) ∧
      matches? .empty (cell.asConditions ["age"]) (.number 35) ["age"] [] = .ok false := by
  intro number cell
  have hop : ∀ op e, .comparison op e ∈ cell.alternatives → op.isConnective = false := by
    simp [cell, alternatives, BinaryOp.isConnective]
  exact ⟨rfl, hop, (matches?_asConditions rfl hop).trans rfl⟩

end Cell

end Rulebook
