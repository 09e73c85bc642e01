import Rulebook.Proofs.Value.Order

/-!
The order of values against their equality. Two values are level in the order exactly if they are
equal and have a place in it, so that the comparisons never contradict each other.
-/

namespace Rulebook

-- The operators that compare, each with a truth value as its answer.
def BinaryOp.comparisons : List BinaryOp :=
  [.equal, .less, .greater, .lessEqual, .greaterEqual]

def BinaryOp.accepts (op : BinaryOp) (a b : Value) : Bool :=
  match Value.binary op a b with
  | .ok v => v.isTrue
  | .error _ => false

namespace Value

-- Of a type whose values have an order with each other.
def isOrderedType : Value → Bool
  | number _ | string _ | date _ | time _ | dateTime _ | duration _ => true
  | _ => false

-- Of such a type, and not the undefined number.
def hasPlace : Value → Bool
  | number x => !Number.isUndefined x
  | v => v.isOrderedType

-- The comparison that accepts the values in this order, and no others of an ordered type.
def comparisonOf : Ordering → BinaryOp
  | .lt => .less
  | .eq => .equal
  | .gt => .greater

variable {a b : Value} {o : Ordering} {op : BinaryOp} {accept : Ordering → Bool}

theorem compare?_comm (a b : Value) : compare? b a = (compare? a b).map Ordering.swap := by
  cases hab : compare? a b with
  | some o => rw [compare?_swap hab, Option.map_some]
  | none =>
    cases hba : compare? b a with
    | none => rfl
    | some o => rw [compare?_swap hba] at hab; cases hab

theorem hasPlace_of_compare? (h : compare? a b = some o) : a.hasPlace = true := by
  cases compare?_eq_some_iff.1 h with
  | number h =>
    obtain ⟨i, j, hi, -, -⟩ := Number.compare?_eq_some_iff.1 h
    rw [hasPlace, (Number.key?_eq_some_iff.1 hi).1, Bool.not_false]
  | string | date | time | dateTime | duration => rfl

theorem isOrderedType_of_hasPlace (h : a.hasPlace = true) : a.isOrderedType = true := by
  cases a
  case number => rfl
  all_goals exact h

theorem isNull_of_compare? (h : compare? a b = some o) : a.isNull = false ∧ b.isNull = false := by
  cases compare?_eq_some_iff.1 h <;> exact ⟨rfl, rfl⟩

theorem compare?_of_equal (h : equal a b = true) (ha : a.isOrderedType = true) :
    compare? a b = some .eq := by
  cases a
  case null | boolean | list | context | range => cases ha
  all_goals cases b
  case number.number => exact beq_iff_eq.1 h
  case duration.duration =>
    cases beq_iff_eq.1 h
    exact Calendar.Duration.compare?_self
  case string.string | date.date | time.time | dateTime.dateTime =>
    cases beq_iff_eq.1 h
    exact congrArg some Std.ReflCmp.compare_self
  all_goals cases h

theorem compare?_eq_level_iff : compare? a b = some .eq ↔ (a == b) = true ∧ a.hasPlace = true := by
  constructor
  · intro h
    exact ⟨equal_of_compare? h, hasPlace_of_compare? h⟩
  · rintro ⟨h, ha⟩
    exact compare?_of_equal h (isOrderedType_of_hasPlace ha)

theorem binary_comparison (hop : op ∈ BinaryOp.comparisons) (ha : a.isNull = false)
    (hb : b.isNull = false) : binary op a b = .ok (.boolean (op.accepts a b)) := by
  simp only [BinaryOp.comparisons, List.mem_cons, List.not_mem_nil, or_false] at hop
  obtain rfl | rfl | rfl | rfl | rfl := hop
  all_goals
    simp only [BinaryOp.accepts, binary, ordered, nullOr, ha, hb]
    rfl

-- With a null there is no order, and no truth value either.
theorem isTrue_ordered_iff :
    (ordered a b accept).isTrue = true ↔ ∃ o, compare? a b = some o ∧ accept o = true := by
  cases h : compare? a b with
  | some o =>
    obtain ⟨ha, hb⟩ := isNull_of_compare? h
    simp [ordered, nullOr, h, ha, hb, isTrue]
  | none =>
    simp only [ordered, nullOr, h, reduceCtorEq, false_and, exists_false, iff_false]
    split <;> simp [isTrue]

theorem accepts_equal_iff (ha : a.isNull = false) :
    BinaryOp.equal.accepts a b = true ↔ (a == b) = true := by
  cases hb : b.isNull with
  | false =>
    simp only [BinaryOp.accepts, binary, nullOr, ha, hb]
    rfl
  | true =>
    cases b <;> cases hb
    have hne : (a == null) = false := by
      cases a with
      | null => cases ha
      | _ => rfl
    rw [hne]
    cases a <;> rfl

theorem isNull_of_isOrderedType (h : a.isOrderedType = true) : a.isNull = false := by
  cases a with
  | null => cases h
  | _ => rfl

theorem accepts_comparisonOf_iff (ha : a.isOrderedType = true) :
    (comparisonOf o).accepts a b = true ↔ compare? a b = some o := by
  cases o with
  | lt => exact isTrue_ordered_iff.trans (by simp)
  | gt => exact isTrue_ordered_iff.trans (by simp)
  | eq =>
    rw [comparisonOf, accepts_equal_iff (isNull_of_isOrderedType ha)]
    exact ⟨fun h => compare?_of_equal h ha, equal_of_compare?⟩

theorem filter_accepts_eq (ha : a.isOrderedType = true) :
    [.less, .equal, .greater].filter (BinaryOp.accepts · a b) =
      (compare? a b).toList.map comparisonOf := by
  have hless := accepts_comparisonOf_iff (b := b) (o := .lt) ha
  have hequal := accepts_comparisonOf_iff (b := b) (o := .eq) ha
  have hgreater := accepts_comparisonOf_iff (b := b) (o := .gt) ha
  simp only [comparisonOf] at hless hequal hgreater
  cases h : compare? a b with
  | none => simp_all
  | some o => cases o <;> simp_all [comparisonOf]

theorem ordered_comm {accept' : Ordering → Bool} (h : ∀ o, accept' o.swap = accept o) :
    ordered a b accept = ordered b a accept' := by
  simp only [ordered, nullOr, compare?_comm a b, Bool.or_comm b.isNull]
  cases compare? a b <;> simp [h]

theorem accepts_lessEqual_iff : BinaryOp.lessEqual.accepts a b = true ↔
    BinaryOp.less.accepts a b = true ∨
      BinaryOp.equal.accepts a b = true ∧ a.hasPlace = true := by
  have hle : BinaryOp.lessEqual.accepts a b = true ↔
      compare? a b = some .lt ∨ compare? a b = some .eq := by
    refine isTrue_ordered_iff.trans ?_
    cases compare? a b with
    | none => simp
    | some o => cases o <;> simp
  have hlt : BinaryOp.less.accepts a b = true ↔ compare? a b = some .lt :=
    isTrue_ordered_iff.trans (by simp)
  rw [hle, hlt, compare?_eq_level_iff]
  refine or_congr_right (and_congr_left fun ha => ?_)
  rw [accepts_equal_iff (isNull_of_isOrderedType (isOrderedType_of_hasPlace ha))]

theorem comparisons_agree (a b : Value) :
    compare? b a = (compare? a b).map Ordering.swap ∧
      (compare? a b = some .eq ↔ (a == b) = true ∧ a.hasPlace = true) ∧
      (a.isNull = false → b.isNull = false →
        (∀ op ∈ BinaryOp.comparisons, binary op a b = .ok (.boolean (op.accepts a b))) ∧
        binary .less a b = binary .greater b a ∧
        binary .lessEqual a b = binary .greaterEqual b a ∧
        (BinaryOp.lessEqual.accepts a b = true ↔ BinaryOp.less.accepts a b = true ∨
          BinaryOp.equal.accepts a b = true ∧ a.hasPlace = true) ∧
        (a.isOrderedType = true →
          let accepted := [.less, .equal, .greater].filter (BinaryOp.accepts · a b)
          accepted.length ≤ 1 ∧ (accepted.length = 1 ↔ Comparable a b))) := by
  refine ⟨compare?_comm a b, compare?_eq_level_iff, fun ha hb => ⟨?_, ?_, ?_, ?_, ?_⟩⟩
  · exact fun op hop => binary_comparison hop ha hb
  · exact congrArg Except.ok (ordered_comm (by decide))
  · exact congrArg Except.ok (ordered_comm (by decide))
  · exact accepts_lessEqual_iff
  · intro htype accepted
    have hlength : accepted.length = _ := congrArg List.length (filter_accepts_eq htype)
    rw [hlength, List.length_map, Comparable]
    cases compare? a b <;> simp

-- The zeros are level, and neither is less than the other.
theorem comparisons_agree_zeros :
    let a : Value := .number 0
    let b : Value := .number (-0)
    a.isNull = false ∧ b.isNull = false ∧ a.isOrderedType = true ∧
      binary .less a b = binary .greater b a ∧
      BinaryOp.lessEqual.accepts a b = true ∧ compare? a b = some .eq ∧
      ([.less, .equal, .greater].filter (BinaryOp.accepts · a b)).length = 1 := by
  intro a b
  obtain ⟨-, hlevel, hoperators⟩ := comparisons_agree a b
  obtain ⟨-, hless, -, hle, hone⟩ := hoperators rfl rfl
  have hequal : (a == b) = true := by decide
  have hplace : a.hasPlace = true := by decide
  have haccepts : BinaryOp.equal.accepts a b = true := by decide
  exact ⟨rfl, rfl, rfl, hless, hle.2 (.inr ⟨haccepts, hplace⟩), hlevel.2 ⟨hequal, hplace⟩,
    (hone rfl).2.2 (by decide)⟩

end Value

end Rulebook
