import Rulebook.Proofs.Cell.Alternatives
import Rulebook.Proofs.Cell.Conditions

/-!
An interval can be asked for in four ways: by `between`, by membership in a range, by a comparison
with each bound, and as a cell. All of them tell whether the value is inside the bounds. A value
without an order with one of them is not.
-/

namespace Rulebook

namespace Value

-- On the inner side of the bound, or level with one that belongs to the interval.
def Passes (inside : Ordering) (included : Bool) (v bound : Value) : Prop :=
  compare? v bound = some inside ∨ included = true ∧ compare? v bound = some .eq

def Inside (lower upper : Value) (i j : Bool) (v : Value) : Prop :=
  Passes .gt i v lower ∧ Passes .lt j v upper

instance (inside : Ordering) (included : Bool) (v bound : Value) :
    Decidable (Passes inside included v bound) :=
  inferInstanceAs (Decidable (_ ∨ _))

instance (lower upper : Value) (i j : Bool) (v : Value) : Decidable (Inside lower upper i j v) :=
  inferInstanceAs (Decidable (_ ∧ _))

-- The comparison with a bound.
def lowerComparison (included : Bool) : BinaryOp :=
  if included then .greaterEqual else .greater

def upperComparison (included : Bool) : BinaryOp :=
  if included then .lessEqual else .less

variable {v lower upper bound x a b : Value} {inside : Ordering} {i j included : Bool}

theorem onSide_iff {o : Ordering} :
    onSide inside included o = true ↔ o = inside ∨ included = true ∧ o = .eq := by
  simp [onSide, and_comm]

theorem inRange_iff : inRange lower upper i j v = true ↔ Inside lower upper i j v := by
  simp only [inRange, rangeContains?, Inside, Passes]
  cases compare? v lower <;> cases compare? v upper <;> simp [onSide_iff]

theorem inRange_eq : inRange lower upper i j v = decide (Inside lower upper i j v) :=
  Bool.eq_iff_iff.2 (inRange_iff.trans decide_eq_true_iff.symm)

-- Without a null the comparison is told from the order alone.
theorem ordered_eq_of_iff {accept : Ordering → Bool} (hv : v.isNull = false)
    (hbound : bound.isNull = false)
    (h : ∀ o, accept o = true ↔ o = inside ∨ included = true ∧ o = .eq) :
    ordered v bound accept = .boolean (decide (Passes inside included v bound)) := by
  have hanswer : ((compare? v bound).map accept).getD false =
      decide (Passes inside included v bound) := by
    rw [Bool.eq_iff_iff, decide_eq_true_iff, Passes]
    cases compare? v bound <;> simp [h]
  simp [ordered, nullOr, hv, hbound, hanswer]

theorem binary_lowerComparison (hv : v.isNull = false) (hbound : bound.isNull = false) :
    binary (lowerComparison i) v bound = .ok (.boolean (decide (Passes .gt i v bound))) := by
  cases i with
  | false => exact congrArg _ (ordered_eq_of_iff hv hbound (by decide))
  | true => exact congrArg _ (ordered_eq_of_iff hv hbound (by decide))

theorem binary_upperComparison (hv : v.isNull = false) (hbound : bound.isNull = false) :
    binary (upperComparison j) v bound = .ok (.boolean (decide (Passes .lt j v bound))) := by
  cases j with
  | false => exact congrArg _ (ordered_eq_of_iff hv hbound (by decide))
  | true => exact congrArg _ (ordered_eq_of_iff hv hbound (by decide))

theorem conjunction_boolean (p q : Bool) :
    conjunction (.boolean p) (.boolean q) = .boolean (p && q) := by
  cases p <;> cases q <;> rfl

theorem binary_isIn_range (hx : x.isNull = false) :
    binary .isIn x (.range a b i j) = .ok (.boolean (decide (Inside a b i j x))) := by
  rw [← inRange_eq]
  simp only [binary, nullOr, hx]
  rfl

theorem between_eq (hx : x.isNull = false) (ha : a.isNull = false) (hb : b.isNull = false) :
    x.between a b = .boolean (decide (Inside a b true true x)) := by
  have hlower : ordered x a Ordering.isGE = .boolean (decide (Passes .gt true x a)) :=
    ordered_eq_of_iff hx ha (by decide)
  have hupper : ordered x b Ordering.isLE = .boolean (decide (Passes .lt true x b)) :=
    ordered_eq_of_iff hx hb (by decide)
  rw [between, hlower, hupper, conjunction_boolean, ← Bool.decide_and]
  rfl

end Value

open Value (Inside Passes lowerComparison upperComparison)

variable {r : Registry} {s : Scope} {c : Context} {names : List String} {i j : Bool}
  {operand lower upper cellLower cellUpper : Expr} {x a b : Value}

theorem eval_range (ha : eval r s lower = .ok a) (hb : eval r s upper = .ok b) :
    eval r s (.range lower upper i j) = .ok (.range a b i j) := by
  simp only [eval, ha, hb]
  rfl

theorem eval_binary {op : BinaryOp} (hop : op.isConnective = false)
    (hx : eval r s operand = .ok x) (ha : eval r s lower = .ok a) :
    eval r s (.binary op operand lower) = Value.binary op x a := by
  simp only [eval, hx, ha, bind, Except.bind, decidesAlone_of_isConnective hop]
  rfl

theorem eval_and {p q : Bool} (hp : eval r s lower = .ok (.boolean p))
    (hq : eval r s upper = .ok (.boolean q)) :
    eval r s (.binary .and lower upper) = .ok (.boolean (p && q)) := by
  simp only [eval, hp, hq]
  cases p <;> cases q <;> rfl

theorem eval_isIn_range (hx : eval r s operand = .ok x) (ha : eval r s lower = .ok a)
    (hb : eval r s upper = .ok b) (hxn : x.isNull = false) :
    eval r s (.binary .isIn operand (.range lower upper i j)) =
      .ok (.boolean (decide (Inside a b i j x))) := by
  rw [eval_binary rfl hx (eval_range ha hb), Value.binary_isIn_range hxn]

theorem eval_comparisons (hx : eval r s operand = .ok x) (ha : eval r s lower = .ok a)
    (hb : eval r s upper = .ok b) (hxn : x.isNull = false) (han : a.isNull = false)
    (hbn : b.isNull = false) :
    eval r s (.binary .and (.binary (lowerComparison i) operand lower)
        (.binary (upperComparison j) operand upper)) =
      .ok (.boolean (decide (Inside a b i j x))) := by
  have hlower : eval r s (.binary (lowerComparison i) operand lower) =
      .ok (.boolean (decide (Passes .gt i x a))) := by
    rw [eval_binary (by cases i <;> rfl) hx ha, Value.binary_lowerComparison hxn han]
  have hupper : eval r s (.binary (upperComparison j) operand upper) =
      .ok (.boolean (decide (Passes .lt j x b))) := by
    rw [eval_binary (by cases j <;> rfl) hx hb, Value.binary_upperComparison hxn hbn]
  rw [eval_and hlower hupper, ← Bool.decide_and]
  rfl

theorem eval_between (hx : eval r s operand = .ok x) (ha : eval r s lower = .ok a)
    (hb : eval r s upper = .ok b) (hxn : x.isNull = false) (han : a.isNull = false)
    (hbn : b.isNull = false) :
    eval r s (.between operand lower upper) =
      .ok (.boolean (decide (Inside a b true true x))) := by
  simp only [eval, hx, ha, hb, ← Value.between_eq hxn han hbn]
  rfl

-- A range whose bounds do not speak of the input is a value, and holds the inputs inside.
theorem Cell.matches?_range (ha : eval r [inputFrame x names, c] lower = .ok a)
    (hb : eval r [inputFrame x names, c] upper = .ok b)
    (hvalue : isPredicate (.range lower upper i j) names = false) :
    matches? r (ofTest (.expression (.range lower upper i j))) x names c =
      .ok (decide (Inside a b i j x)) := by
  rw [matches?_value (eval_range ha hb) hvalue, ← Value.inRange_eq]
  rfl

-- The bounds of the cell are read in a scope of their own.
theorem eval_interval_forms (hx : eval r s operand = .ok x) (ha : eval r s lower = .ok a)
    (hb : eval r s upper = .ok b) (hxn : x.isNull = false) (han : a.isNull = false)
    (hbn : b.isNull = false) (hca : eval r [Cell.inputFrame x names, c] cellLower = .ok a)
    (hcb : eval r [Cell.inputFrame x names, c] cellUpper = .ok b)
    (hvalue : Cell.isPredicate (.range cellLower cellUpper i j) names = false) :
    eval r s (.binary .isIn operand (.range lower upper i j)) =
        .ok (.boolean (decide (Inside a b i j x))) ∧
      eval r s (.binary .and (.binary (lowerComparison i) operand lower)
        (.binary (upperComparison j) operand upper)) =
        .ok (.boolean (decide (Inside a b i j x))) ∧
      Cell.matches? r (.ofTest (.expression (.range cellLower cellUpper i j))) x names c =
        .ok (decide (Inside a b i j x)) ∧
      eval r s (.between operand lower upper) =
        .ok (.boolean (decide (Inside a b true true x))) :=
  ⟨eval_isIn_range hx ha hb hxn, eval_comparisons hx ha hb hxn han hbn,
    Cell.matches?_range hca hcb hvalue, eval_between hx ha hb hxn han hbn⟩

-- A day is above the zero duration, and has no order with the month above it.
theorem eval_interval_forms_durations :
    let day : Value := .duration ⟨0, Calendar.millisPerDay⟩
    let month : Value := .duration ⟨1, 0⟩
    let bounds : Context := [("low", .duration .zero), ("high", month)]
    let low : Expr := .reference "low"
    let high : Expr := .reference "high"
    let age : Expr := .reference "age"
    let s : Scope := [("age", day) :: bounds]
    Value.compare? day (.duration .zero) = some .gt ∧ Value.compare? day month = none ∧
      Cell.isPredicate (.range low high true true) ["age"] = false ∧
      eval .empty s (.binary .isIn age (.range low high true true)) = .ok (.boolean false) ∧
      eval .empty s (.binary .and (.binary .greaterEqual age low)
        (.binary .lessEqual age high)) = .ok (.boolean false) ∧
      Cell.matches? .empty (.ofTest (.expression (.range low high true true))) day ["age"]
        bounds = .ok false ∧
      eval .empty s (.between age low high) = .ok (.boolean false) := by
  intro day month bounds low high age s
  have hvalue : Cell.isPredicate (.range low high true true) ["age"] = false := by decide
  refine ⟨by decide, by decide, hvalue, ?_⟩
  exact eval_interval_forms (s := s) (x := day) (a := .duration .zero) (b := month) rfl rfl rfl rfl
    rfl rfl rfl rfl hvalue

end Rulebook
