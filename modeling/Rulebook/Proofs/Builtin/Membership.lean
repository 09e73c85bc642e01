import Rulebook.Proofs.Builtin.Positions
import Rulebook.Proofs.Eval.Intervals
import Rulebook.Proofs.Number.Conversion
import Rulebook.Proofs.Number.Order

/-!
A value is in a list without ranges if one of the items is equal to it. The operator, the cell and
the functions ask for this item by item, and the positions at which they find it are those at which
the filter finds it. Up to 2 ^ 53 items a position is the number that stands for it.
-/

namespace Rulebook

variable {items : List Value} {v w : Value} {i : ℕ} {x : Float} {r : Registry} {s : Scope}
  {c : Context} {names : List String} {list operand position e : Expr}

namespace Value

theorem holdsItem_eq (h : ∀ a b i j, w ≠ .range a b i j) : holdsItem v w = (w == v) := by
  cases w
  case range a b i j => exact absurd rfl (h a b i j)
  all_goals rfl

theorem holds_list (hitems : ∀ a b i j, .range a b i j ∉ items) :
    holds (.list items) v = items.any (· == v) := by
  rw [Bool.eq_iff_iff, List.any_eq_true, holds, List.any_eq_true]
  refine exists_congr fun w => and_congr_right fun hw => ?_
  rw [holdsItem_eq]
  rintro a b i j rfl
  exact hitems a b i j hw

theorem binary_isIn_list (hv : v.isNull = false) (hitems : ∀ a b i j, .range a b i j ∉ items) :
    binary .isIn v (.list items) = .ok (.boolean (items.any (· == v))) := by
  simp only [binary, nullOr, hv, holds_list hitems]
  rfl

theorem isNull_of_equal_null (h : (null == v) = true) : v.isNull = true := by
  cases v
  case null => rfl
  all_goals cases h

theorem elementAt_of_pos (hx : Number.toInt? x = some (i : ℤ)) (hi : 0 < i) :
    elementAt items x = (items[i - 1]?).getD .null := by
  have hplace : ((i : ℤ) - 1).toNat = i - 1 := by omega
  have hi : (0 : ℤ) < i := by omega
  simp only [elementAt, hx, if_pos hi, hplace]

end Value

theorem eval_isIn_list (hoperand : eval r s operand = .ok v)
    (hlist : eval r s list = .ok (.list items)) (hv : v.isNull = false)
    (hitems : ∀ a b i j, .range a b i j ∉ items) :
    eval r s (.binary .isIn operand list) = .ok (.boolean (items.any (· == v))) := by
  rw [eval_binary rfl hoperand hlist, Value.binary_isIn_list hv hitems]

theorem Cell.matches?_list (he : eval r [inputFrame v names, c] e = .ok (.list items))
    (hvalue : isPredicate e names = false) (hitems : ∀ a b i j, .range a b i j ∉ items) :
    matches? r (ofTest (.expression e)) v names c = .ok (items.any (· == v)) := by
  rw [matches?_value he hvalue, Value.holds_list hitems]

namespace Builtin

theorem call_contains : Registry.builtins.call "list_contains" [.list items, v] =
    .ok (.boolean (items.any (· == v))) := by
  have hfind : Registry.builtins.find? "list_contains" = some (onList "list_contains" (.exact 2)
      fun items others => .boolean (items.any fun item => others.any (item == ·))) := rfl
  have hany : (items.any fun w => [v].any (w == ·)) = items.any (· == v) := by simp
  rw [Registry.call, hfind, ← hany]
  rfl

-- The positions at which an item is equal to the value.
def positions (v : Value) (items : List Value) : List ℕ :=
  (places (fun w _ => w == v) items).map (· + 1)

theorem positionsOf_eq : positionsOf v items = (positions v items).map fun i : ℕ => .ofInt i := by
  simp only [positionsOf, positions, places, List.map_map]
  rfl

theorem pairwise_positions : (positions v items).Pairwise (· < ·) := by
  rw [positions, List.pairwise_map]
  exact pairwise_places.imp (Nat.add_lt_add_right · 1)

theorem mem_positions_iff : i ∈ positions v items ↔
    0 < i ∧ ∃ w, items[i - 1]? = some w ∧ (w == v) = true := by
  simp only [positions, List.mem_map, mem_places_iff]
  constructor
  · rintro ⟨i, hi, rfl⟩
    exact ⟨i.succ_pos, hi⟩
  · rintro ⟨hpos, hi⟩
    exact ⟨i - 1, hi, Nat.sub_add_cancel hpos⟩

theorem le_length_of_mem_positions (h : i ∈ positions v items) : i ≤ items.length := by
  obtain ⟨hpos, w, hw, -⟩ := mem_positions_iff.1 h
  have hlt := (List.getElem?_eq_some_iff.1 hw).1
  omega

theorem any_iff_positions : items.any (· == v) = true ↔ positions v items ≠ [] := by
  constructor
  · intro h
    obtain ⟨w, hw, hwv⟩ := List.any_eq_true.1 h
    obtain ⟨i, hi⟩ := List.getElem?_of_mem hw
    exact List.ne_nil_of_mem (mem_positions_iff.2 ⟨i.succ_pos, w, hi, hwv⟩)
  · intro h
    obtain ⟨i, hi⟩ := List.exists_mem_of_ne_nil _ h
    obtain ⟨-, w, hw, hwv⟩ := mem_positions_iff.1 hi
    exact List.any_eq_true.2 ⟨w, List.mem_of_getElem? hw, hwv⟩

theorem call_positions : Registry.builtins.call "index_of" [.list items, v] =
    .ok (.list ((positions v items).map fun i : ℕ => .ofInt i)) := by
  have hfind : Registry.builtins.find? "index_of" = some ⟨"index_of", .exact 2, false,
      fun arguments => do
        let items ← expectList "index_of" arguments 0
        .ok (.list (positionsOf ((arguments[1]?).getD .null) items))⟩ := rfl
  rw [Registry.call, hfind, ← positionsOf_eq]
  rfl

-- The filter finds the value where `index_of` says that it is, and nowhere else.
theorem mem_positions_iff_filter (hlist : eval r s list = .ok (.list items))
    (hv : v.isNull = false) (hposition : eval r s position = .ok (.number x))
    (hx : Number.toInt? x = some (i : ℤ)) (hi : 0 < i) :
    i ∈ positions v items ↔ ∃ w, eval r s (.filter list position) = .ok w ∧ (w == v) = true := by
  rw [mem_positions_iff, eval_filter_position hlist hposition, Value.elementAt_of_pos hx hi]
  cases hw : items[i - 1]? with
  | some w => simp [hi]
  | none =>
    refine iff_of_false (by simp) ?_
    rintro ⟨w, hnull, hwv⟩
    cases hnull
    rw [Value.isNull_of_equal_null hwv] at hv
    cases hv

section

variable (hlength : items.length ≤ 2 ^ 53)

include hlength

theorem toInt?_position (h : i ∈ positions v items) :
    Number.toInt? (Number.ofInt i) = some (i : ℤ) := by
  apply Number.toInt?_ofInt
  rw [Int.natAbs_natCast]
  exact (le_length_of_mem_positions h).trans (hlength.trans (by decide))

theorem pairwise_numbers : ((positions v items).map fun i : ℕ => Number.ofInt i).Pairwise
    fun x y => Number.less x y = true := by
  rw [List.pairwise_map]
  refine pairwise_positions.imp_of_mem fun {i j} hi hj hij => ?_
  rw [Number.less, Number.compare?_of_toInt? (toInt?_position hlength hi)
    (toInt?_position hlength hj), compare_lt_iff_lt.2 (Int.ofNat_lt.2 hij)]
  rfl

end

end Builtin

theorem membership_agrees (hlist : eval r s list = .ok (.list items))
    (hoperand : eval r s operand = .ok v) (hv : v.isNull = false)
    (hitems : ∀ a b i j, .range a b i j ∉ items)
    (he : eval r [Cell.inputFrame v names, c] e = .ok (.list items))
    (hvalue : Cell.isPredicate e names = false) :
    eval r s (.binary .isIn operand list) = .ok (.boolean (items.any (· == v))) ∧
      Registry.builtins.call "list_contains" [.list items, v] =
        .ok (.boolean (items.any (· == v))) ∧
      Cell.matches? r (.ofTest (.expression e)) v names c = .ok (items.any (· == v)) ∧
      ∃ positions : List ℕ,
        Registry.builtins.call "index_of" [.list items, v] =
          .ok (.list (positions.map fun i : ℕ => .ofInt i)) ∧
        (items.any (· == v) = true ↔ positions ≠ []) ∧
        positions.Pairwise (· < ·) ∧
        (∀ i, i ∈ positions ↔ 0 < i ∧ ∃ w, items[i - 1]? = some w ∧ (w == v) = true) ∧
        (∀ position x (i : ℕ), eval r s position = .ok (.number x) →
          Number.toInt? x = some (i : ℤ) → 0 < i →
            (i ∈ positions ↔
              ∃ w, eval r s (.filter list position) = .ok w ∧ (w == v) = true)) ∧
        (items.length ≤ 2 ^ 53 →
          (∀ i ∈ positions, Number.toInt? (Number.ofInt i) = some (i : ℤ)) ∧
            (positions.map fun i : ℕ => Number.ofInt i).Pairwise
              fun x y => Number.less x y = true) :=
  ⟨eval_isIn_list hoperand hlist hv hitems, Builtin.call_contains,
    Cell.matches?_list he hvalue hitems, Builtin.positions v items, Builtin.call_positions,
    Builtin.any_iff_positions, Builtin.pairwise_positions, fun _ => Builtin.mem_positions_iff,
    fun _ _ _ hposition hx hi => Builtin.mem_positions_iff_filter hlist hv hposition hx hi,
    fun hlength => ⟨fun _ => Builtin.toInt?_position hlength, Builtin.pairwise_numbers hlength⟩⟩

-- Zero in `[0, null, -0]`.
theorem membership_agrees_zeros :
    let zero : Value := .number 0
    let items : List Value := [zero, .null, .number (-0)]
    let list : Expr := .list [.literal (.number 0), .literal .null, .literal (.number (-0))]
    eval .empty [] list = .ok (.list items) ∧ zero.isNull = false ∧
      (∀ a b i j, .range a b i j ∉ items) ∧
      eval .empty [Cell.inputFrame zero [], []] list = .ok (.list items) ∧
      Cell.isPredicate list [] = false ∧
      eval .empty [] (.binary .isIn (.literal (.number 0)) list) = .ok (.boolean true) ∧
      Registry.builtins.call "list_contains" [.list items, zero] = .ok (.boolean true) ∧
      Cell.matches? .empty (.ofTest (.expression list)) zero [] [] = .ok true ∧
      ∃ positions : List ℕ, Registry.builtins.call "index_of" [.list items, zero] =
          .ok (.list (positions.map fun i : ℕ => .ofInt i)) ∧
        positions.Pairwise (· < ·) ∧ 3 ∈ positions ∧
        ∃ w, eval .empty [] (.filter list (.literal (.number 3))) = .ok w ∧ (w == zero) = true := by
  intro zero items list
  have hlist : eval .empty [] list = .ok (.list items) := rfl
  have hzero : eval .empty [] (.literal (.number 0)) = .ok zero := rfl
  have hitems : ∀ a b i j, .range a b i j ∉ items := by simp [items, zero]
  have hcell : eval .empty [Cell.inputFrame zero [], []] list = .ok (.list items) := rfl
  have hvalue : Cell.isPredicate list [] = false := by decide
  obtain ⟨hin, hcontains, hmatches, positions, hpositions, -, hincrease, hmem, hfilter, -⟩ :=
    membership_agrees hlist hzero rfl hitems hcell hvalue
  have hthird : 3 ∈ positions := (hmem 3).2 ⟨by decide, .number (-0), rfl, by decide⟩
  have hselected := (hfilter (.literal (.number 3)) 3 3 rfl (by decide) (by decide)).1 hthird
  exact ⟨hlist, rfl, hitems, hcell, hvalue, hin, hcontains, hmatches, positions, hpositions,
    hincrease, hthird, hselected⟩

end Rulebook
