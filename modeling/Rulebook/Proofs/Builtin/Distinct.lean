import Rulebook.Proofs.Builtin.Positions
import Rulebook.Proofs.Value.Equivalence

/-!
The distinct items of a list are those to which no earlier item is equal. Whatever is equal to an
item is equal to a distinct one, since equality can be passed on from value to value, and an item
that is not even equal to itself is always kept.
-/

namespace Rulebook.Builtin

variable {items kept seen vs : List Value} {v w : Value} {i : ℕ}

-- No item in front of this place is equal to the value.
def isFirst (items : List Value) (v : Value) (i : ℕ) : Bool :=
  (items.take i).all fun w => !(w == v)

theorem isFirst_iff : isFirst items v i = true ↔ ∀ w ∈ items.take i, (w == v) = false := by
  simp [isFirst]

theorem any_append_of_equal (hw : kept.any (· == w) = true) :
    (kept ++ [w]).any (· == v) = kept.any (· == v) := by
  rw [List.any_append, List.any_cons, List.any_nil, Bool.or_false, Bool.or_eq_left_iff_imp]
  intro hwv
  obtain ⟨u, hu, huw⟩ := List.any_eq_true.1 hw
  exact List.any_eq_true.2 ⟨u, hu, Value.equal_trans huw hwv⟩

-- What is kept of the items so far stands for all of them.
theorem distinctFrom_eq (h : ∀ v, kept.any (· == v) = seen.any (· == v)) :
    distinctFrom kept vs = kept.reverse ++
      ((vs.zipIdx seen.length).filter fun e => isFirst (seen ++ vs) e.1 e.2).map (·.1) := by
  induction vs generalizing kept seen with
  | nil => simp [distinctFrom]
  | cons v vs ih =>
    have hfirst : isFirst (seen ++ v :: vs) v seen.length = !kept.any (· == v) := by
      rw [isFirst, List.take_left, h, List.not_any_eq_all_not]
    have hnext (kept' : List Value)
        (h' : ∀ u, kept'.any (· == u) = (seen ++ [v]).any (· == u)) := ih h'
    simp only [List.append_assoc, List.singleton_append, List.length_append,
      List.length_singleton] at hnext
    rw [distinctFrom, List.zipIdx_cons, List.filter_cons, hfirst]
    cases hv : kept.any (· == v) with
    | true =>
      refine hnext kept fun w => ?_
      rw [any_append_of_equal (h v ▸ hv), h]
    | false =>
      have hkept : ∀ w, (v :: kept).any (· == w) = (seen ++ [v]).any (· == w) := by
        intro w
        simp [h, Bool.or_comm]
      rw [if_neg Bool.false_ne_true, hnext _ hkept]
      simp

theorem distinct_eq : distinct items = (places (isFirst items) items).filterMap (items[·]?) := by
  have hnone : ∀ v, ([] : List Value).any (· == v) = ([] : List Value).any (· == v) := fun _ => rfl
  rw [filterMap_places, distinct, distinctFrom_eq hnone]
  rfl

theorem distinct_sublist : (distinct items).Sublist items := by
  have hsub : (distinct items).Sublist (items.zipIdx.map (·.1)) := by
    rw [distinct_eq, filterMap_places]
    exact List.filter_sublist.map _
  rwa [List.zipIdx_map_fst] at hsub

theorem pairwise_zipIdx : items.zipIdx.Pairwise fun e f => e.2 < f.2 := by
  rw [← List.pairwise_map, List.zipIdx_map_snd]
  exact List.pairwise_lt_range' 1

theorem pairwise_distinct : (distinct items).Pairwise fun v w => (v == w) = false := by
  rw [distinct_eq, filterMap_places, List.pairwise_map]
  refine (pairwise_zipIdx.filter _).imp_of_mem fun {e f} he hf hlt => ?_
  have hfirst := isFirst_iff.1 (List.mem_filter.1 hf).2
  have he := List.mem_zipIdx_iff_getElem?.1 (List.mem_of_mem_filter he)
  exact hfirst e.1 (List.mem_of_getElem? (by rwa [List.getElem?_take_of_lt hlt]))

theorem any_distinctFrom :
    (distinctFrom kept vs).any (· == w) = (kept.any (· == w) || vs.any (· == w)) := by
  induction vs generalizing kept with
  | nil => simp [distinctFrom]
  | cons v vs ih =>
    rw [distinctFrom, List.any_cons, ← Bool.or_assoc]
    cases hv : kept.any (· == v) with
    | true =>
      have hkept := any_append_of_equal (v := w) hv
      rw [List.any_append, List.any_cons, List.any_nil, Bool.or_false] at hkept
      rw [if_pos rfl, ih, hkept]
    | false => rw [if_neg Bool.false_ne_true, ih, List.any_cons, Bool.or_comm (v == w)]

theorem any_distinct : (distinct items).any (· == w) = items.any (· == w) :=
  any_distinctFrom

theorem distinct_of_pairwise (h : items.Pairwise fun v w => (v == w) = false) :
    distinct items = items := by
  have hfirst : ∀ e ∈ items.zipIdx, isFirst items e.1 e.2 = true := by
    intro e he
    obtain ⟨hi, hv⟩ := List.getElem?_eq_some_iff.1 (List.mem_zipIdx_iff_getElem?.1 he)
    refine isFirst_iff.2 fun w hw => ?_
    obtain ⟨j, hj, rfl⟩ := List.mem_take_iff_getElem.1 hw
    rw [← hv]
    exact List.pairwise_iff_getElem.1 h j e.2 (by omega) hi (by omega)
  rw [distinct_eq, filterMap_places, List.filter_eq_self.2 hfirst, List.zipIdx_map_fst]

section

variable {lists : List (List Value)}

theorem joinLists_map (function : String) :
    joinLists function (lists.map .list) = .ok lists.flatten := by
  have hlists : ((List.range (lists.map Value.list).length).mapM fun i =>
      expectList function (lists.map .list) i) = .ok lists := by
    rw [mapM_eq_ok_iff, List.forall₂_iff_get]
    refine ⟨by simp, fun i _ hi => ?_⟩
    have hi : i < lists.length := hi
    simp [expectList, hi]
  rw [joinLists, hlists]
  rfl

theorem call_lists {f : Function} (harity : f.arity = .atLeast 0) :
    f.call (lists.map .list) = f.body (lists.map .list) := by
  have hnull : (lists.map Value.list).any Value.isNull = false := by
    simp [Value.isNull]
  simp [Function.call, harity, Arity.accepts, hnull]

theorem call_distinct :
    Registry.builtins.call "distinct_values" [.list items] = .ok (.list (distinct items)) := by
  have hfind : Registry.builtins.find? "distinct_values" =
      some (listToList "distinct_values" distinct) := rfl
  rw [Registry.call, hfind]
  rfl

theorem call_concatenate : Registry.builtins.call "concatenate" (lists.map .list) =
    .ok (.list lists.flatten) := by
  have hfind : Registry.builtins.find? "concatenate" = some ⟨"concatenate", .atLeast 0, true,
      fun arguments => do .ok (.list (← joinLists "concatenate" arguments))⟩ := rfl
  simp only [Registry.call, hfind]
  rw [call_lists rfl]
  simp only [joinLists_map]
  rfl

theorem call_union : Registry.builtins.call "union" (lists.map .list) =
    .ok (.list (distinct lists.flatten)) := by
  have hfind : Registry.builtins.find? "union" = some ⟨"union", .atLeast 0, true,
      fun arguments => do .ok (.list (distinct (← joinLists "union" arguments)))⟩ := rfl
  simp only [Registry.call, hfind]
  rw [call_lists rfl]
  simp only [joinLists_map]
  rfl

end

theorem call_distinct_and_union (hkeys : ∀ v ∈ items, v.UniqueKeys) (lists : List (List Value)) :
    (∃ kept, Registry.builtins.call "distinct_values" [.list items] = .ok (.list kept) ∧
      kept.Sublist items ∧
      kept.Pairwise (fun v w => (v == w) = false ∧ (w == v) = false) ∧
      (∀ v, kept.any (· == v) = items.any (· == v)) ∧
      (∃ firsts : List ℕ, firsts.Pairwise (· < ·) ∧ kept = firsts.filterMap (items[·]?) ∧
        ∀ i, i ∈ firsts ↔
          ∃ v, items[i]? = some v ∧ ∀ w ∈ items.take i, (w == v) = false) ∧
      Registry.builtins.call "distinct_values" [.list kept] = .ok (.list kept)) ∧
    ∃ all, Registry.builtins.call "concatenate" (lists.map .list) = .ok (.list all) ∧
      Registry.builtins.call "union" (lists.map .list) =
        Registry.builtins.call "distinct_values" [.list all] := by
  refine ⟨⟨distinct items, call_distinct, distinct_sublist, ?_, fun v => any_distinct, ?_, ?_⟩, ?_⟩
  · refine pairwise_distinct.imp_of_mem fun {v w} hv hw h => ⟨h, ?_⟩
    rw [← Bool.not_eq_true] at h ⊢
    have hv := hkeys v (distinct_sublist.subset hv)
    have hw := hkeys w (distinct_sublist.subset hw)
    exact mt (Value.equal_symm hw hv) h
  · refine ⟨places (isFirst items) items, pairwise_places, distinct_eq, fun i => ?_⟩
    simp only [mem_places_iff, isFirst_iff]
  · rw [call_distinct, distinct_of_pairwise pairwise_distinct]
  · exact ⟨lists.flatten, call_concatenate, by rw [call_union, call_distinct]⟩

-- The entries in either order, with either zero, and two numbers that are not even themselves.
theorem call_distinct_and_union_zeros :
    let a : Value := .context [("x", .number 0), ("y", .list [])]
    let b : Value := .context [("y", .list []), ("x", .number (-0))]
    let u : Value := .number Number.undefined
    (∀ v ∈ [a, b, u, u], v.UniqueKeys) ∧
      Registry.builtins.call "distinct_values" [.list [a, b, u, u]] = .ok (.list [a, u, u]) ∧
      Registry.builtins.call "distinct_values" [.list [a, u, u]] = .ok (.list [a, u, u]) ∧
      Registry.builtins.call "union" [.list [a, b], .list [u, u]] =
        Registry.builtins.call "distinct_values" [.list [a, b, u, u]] := by
  intro a b u
  have hkeys : ∀ v ∈ [a, b, u, u], v.UniqueKeys := by
    simp [a, b, u, Context.keys, Value.UniqueKeys, Value.UniqueInEntries, Value.UniqueInItems]
  have hdistinct : Registry.builtins.call "distinct_values" [.list [a, b, u, u]] =
      .ok (.list [a, u, u]) := rfl
  have hall : Registry.builtins.call "concatenate" [.list [a, b], .list [u, u]] =
      .ok (.list [a, b, u, u]) := rfl
  obtain ⟨⟨kept, hkept, -, -, -, -, hfixed⟩, all, hjoined, hunion⟩ :=
    call_distinct_and_union hkeys [[a, b], [u, u]]
  cases hkept.symm.trans hdistinct
  cases hjoined.symm.trans hall
  exact ⟨hkeys, hdistinct, hfixed, hunion⟩

end Rulebook.Builtin
