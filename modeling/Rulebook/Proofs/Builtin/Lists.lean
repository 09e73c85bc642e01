import Mathlib.Data.List.Sort
import Rulebook.Builtin.Lists
import Rulebook.Proofs.Builtin.Arguments

/-!
The functions of lists treat alike values alike. Sorting, choosing and finding only compare; only
the median orders the two zeros, and there the numbers at each place stay alike.
-/

namespace Rulebook

open Number (Zeros)
open Value (Alike)

variable {zeros : Zeros}

namespace Number

variable {xs ys : List Float}

theorem foldl_alike {f : Float → Float → Float} {x y : Float}
    (hf : ∀ x x' y y', Alike zeros x x' → Alike zeros y y' → Alike zeros (f x y) (f x' y'))
    (h : List.Forall₂ (Alike zeros) xs ys) (hxy : Alike zeros x y) :
    Alike zeros (xs.foldl f x) (ys.foldl f y) := by
  induction h generalizing x y with
  | nil => exact hxy
  | cons hx _ ih => exact ih (hf _ _ _ _ hxy hx)

-- The order of numbers with the undefined one in front, where the zeros are the same.
def rank (x : Float) : Int :=
  (key? x).getD (-2 * signBit)

theorem rank_le_of_totalKey_le {x y : Float} (h : totalKey x ≤ totalKey y) : rank x ≤ rank y := by
  have hx : magnitudeBits x < signBit := Nat.mod_lt _ (by decide)
  have hy : magnitudeBits y < signBit := Nat.mod_lt _ (by decide)
  revert h
  simp only [totalKey, rank, key?]
  cases isUndefined x <;> cases isUndefined y <;> cases isNegative x <;> cases isNegative y <;>
    simp <;> omega

theorem lt_of_key? {x : Float} {i : Int} (h : key? x = some i) : -(signBit : Int) < i := by
  have hx : magnitudeBits x < signBit := Nat.mod_lt _ (by decide)
  obtain ⟨-, h⟩ := key?_eq_some_iff.1 h
  split at h <;> omega

theorem alike_iff_rank_eq {x y : Float} : Alike .unsigned x y ↔ rank x = rank y := by
  refine ⟨fun h => by rw [rank, rank, h.key?_eq], fun h => .of_key?_eq ?_⟩
  have hbit : (0 : Int) < signBit := by decide
  simp only [rank] at h
  cases hx : key? x with
  | none =>
    cases hy : key? y with
    | none => rfl
    | some j =>
      have := lt_of_key? hy
      simp only [hx, hy, Option.getD_none, Option.getD_some] at h
      omega
  | some i =>
    have hi := lt_of_key? hx
    cases hy : key? y with
    | none =>
      simp only [hx, hy, Option.getD_none, Option.getD_some] at h
      omega
    | some j => rw [hx, hy, Option.getD_some, Option.getD_some] at h; rw [h]

theorem forall₂_alike_iff : List.Forall₂ (Alike .unsigned) xs ys ↔ xs.map rank = ys.map rank := by
  rw [← List.forall₂_eq_eq_eq, List.forall₂_map_left_iff, List.forall₂_map_right_iff]
  exact ⟨fun h => h.imp fun _ _ => alike_iff_rank_eq.1,
    fun h => h.imp fun _ _ => alike_iff_rank_eq.2⟩

theorem mergeSort_alike (h : List.Forall₂ (Alike zeros) xs ys) :
    List.Forall₂ (Alike zeros) (xs.mergeSort fun x y => totalKey x ≤ totalKey y)
      (ys.mergeSort fun x y => totalKey x ≤ totalKey y) := by
  cases zeros with
  | signed =>
    obtain rfl : xs = ys := List.forall₂_eq_eq_eq ▸ h.imp fun _ _ => Alike.eq
    exact List.forall₂_same.2 fun x _ => .refl x
  | unsigned =>
    have sorted (zs : List Float) : List.Pairwise (· ≤ ·)
        ((zs.mergeSort fun x y => totalKey x ≤ totalKey y).map rank) := by
      rw [List.pairwise_map]
      refine (List.pairwise_mergeSort ?_ ?_ zs).imp fun h =>
        rank_le_of_totalKey_le (by simpa using h)
      · intro x y z hxy hyz
        simp only [decide_eq_true_eq] at hxy hyz ⊢
        exact Int.le_trans hxy hyz
      · intro x y
        simpa using Int.le_total _ _
    have hperm (zs : List Float) :
        ((zs.mergeSort fun x y => totalKey x ≤ totalKey y).map rank).Perm (zs.map rank) :=
      (List.mergeSort_perm zs _).map rank
    rw [forall₂_alike_iff] at h ⊢
    refine List.Perm.eq_of_pairwise (fun _ _ _ _ => Int.le_antisymm) (sorted xs) (sorted ys) ?_
    exact (hperm xs).trans (h ▸ (hperm ys).symm)

end Number

namespace Builtin

variable {xs ys : List Float} {as bs : List Value} {name : String} {v v' : Value}

theorem median_alike (h : List.Forall₂ (Number.Alike zeros) xs ys) :
    Number.Alike zeros (median xs) (median ys) := by
  have hat (i : Nat) :
      Number.Alike zeros
        (((xs.mergeSort fun x y => Number.totalKey x ≤ Number.totalKey y)[i]?).getD 0)
        (((ys.mergeSort fun x y => Number.totalKey x ≤ Number.totalKey y)[i]?).getD 0) := by
    have hi := rel_getElem? (Number.mergeSort_alike h) i
    generalize (xs.mergeSort _)[i]? = o at hi ⊢
    generalize (ys.mergeSort _)[i]? = o' at hi ⊢
    cases hi with
    | none => exact .refl 0
    | some h => exact h
  simp only [median, h.length_eq]
  split
  · exact ((hat _).add (hat _)).div 2
  · exact hat _

theorem total_alike (h : List.Forall₂ (Number.Alike zeros) xs ys) :
    Number.Alike zeros (total xs) (total ys) :=
  Number.foldl_alike (fun _ _ _ _ => .add) h (.refl _)

theorem product_alike (h : List.Forall₂ (Number.Alike zeros) xs ys) :
    Number.Alike zeros (product xs) (product ys) :=
  Number.foldl_alike (fun _ _ _ _ => .mul) h (.refl _)

theorem average_alike (h : List.Forall₂ (Number.Alike zeros) xs ys) :
    Number.Alike zeros (average xs) (average ys) := by
  simp only [average, h.length_eq]
  exact (total_alike h).div _

theorem aggregated_alike (h : List.Forall₂ (Alike zeros) as bs) :
    Both (Option.Rel (List.Forall₂ (Number.Alike zeros))) (aggregated name as)
      (aggregated name bs) := by
  have hempty : as.isEmpty = bs.isEmpty := by cases h <;> rfl
  have hnull : as.any Value.isNull = bs.any Value.isNull :=
    any_eq_of_forall₂ h fun _ _ hv => hv.isNull_eq
  simp only [aggregated, hempty, hnull]
  refine .ite (.given .none) ?_
  refine Both.bind (Both.mapM h fun v v' hv => ?_) fun _ _ h => .given (.some h)
  cases hv
  case number hx => exact .given hx
  all_goals exact .failed

theorem impartial_aggregate {f : List Float → Float}
    (hf : ∀ xs ys, List.Forall₂ (Number.Alike zeros) xs ys → Number.Alike zeros (f xs) (f ys)) :
    (aggregate name f).Impartial zeros := by
  intro as bs h
  refine (aggregated_alike (listOrItems_alike h)).bind fun _ _ hn => ?_
  cases hn with
  | none => exact .given .null
  | some h => exact .given (.number (hf _ _ h))

theorem best_alike {wanted : Ordering} (h : List.Forall₂ (Alike zeros) as bs)
    (hv : Alike zeros v v') :
    Both (Alike zeros) (best name wanted v as) (best name wanted v' bs) := by
  induction h generalizing v v' with
  | nil => exact .given hv
  | cons hw _ ih =>
    simp only [best, hw.compare?_eq hv]
    split
    · refine ih ?_
      split
      · exact hw
      · exact hv
    · exact .failed

theorem impartial_extreme {wanted : Ordering} : (extreme name wanted).Impartial zeros := by
  intro as bs h
  have hitems := listOrItems_alike h
  simp only [extreme, any_eq_of_forall₂ hitems fun _ _ hv => hv.isNull_eq]
  refine .ite (.given .null) ?_
  generalize listOrItems as = items at hitems ⊢
  generalize listOrItems bs = items' at hitems ⊢
  cases hitems with
  | nil => exact .given .null
  | cons hv h => exact best_alike h hv

theorem insertDownward_alike (h : List.Forall₂ (Alike zeros) as bs) (hv : Alike zeros v v') :
    Both (List.Forall₂ (Alike zeros)) (insertDownward v as) (insertDownward v' bs) := by
  induction h with
  | nil => exact .given (.cons hv .nil)
  | cons hw h ih =>
    simp only [insertDownward, hv.compare?_eq hw]
    split
    · exact ih.bind fun _ _ h => .given (.cons hw h)
    · exact .given (.cons hv (.cons hw h))
    · exact .failed

theorem sortItems_alike (h : List.Forall₂ (Alike zeros) as bs) :
    Both (List.Forall₂ (Alike zeros)) (sortItems as) (sortItems bs) :=
  (Both.foldlM h .nil fun _ _ _ _ hs hv => insertDownward_alike hs hv).bind fun _ _ h =>
    .given (List.rel_reverse h)

theorem distinctFrom_alike {kept kept' : List Value} (h : List.Forall₂ (Alike zeros) as bs)
    (hk : List.Forall₂ (Alike zeros) kept kept') :
    List.Forall₂ (Alike zeros) (distinctFrom kept as) (distinctFrom kept' bs) := by
  induction h generalizing kept kept' with
  | nil => exact List.rel_reverse hk
  | @cons v v' _ _ hv _ ih =>
    have hany : (kept.any fun w => w == v) = kept'.any fun w => w == v' :=
      any_eq_of_forall₂ hk fun _ _ hw => hw.equal_eq hv
    simp only [distinctFrom, hany]
    split
    · exact ih hk
    · exact ih (.cons hv hk)

theorem distinct_alike (h : List.Forall₂ (Alike zeros) as bs) :
    List.Forall₂ (Alike zeros) (distinct as) (distinct bs) :=
  distinctFrom_alike h .nil

theorem flattened_alike (h : Alike zeros v v') :
    List.Forall₂ (Alike zeros) (flattened v) (flattened v') := by
  induction v using Value.induction generalizing v' with
  | list items ih =>
    cases h with
    | list h =>
      simp only [flattened]
      induction h with
      | nil => exact .nil
      | cons hv _ ihs =>
        rw [List.forall_mem_cons] at ih
        exact List.rel_append (ih.1 hv) (ihs ih.2)
  | _ =>
    have hone := List.Forall₂.cons h .nil
    cases h
    exact hone

theorem joinLists_alike (h : List.Forall₂ (Alike zeros) as bs) :
    Both (List.Forall₂ (Alike zeros)) (joinLists name as) (joinLists name bs) := by
  simp only [joinLists, h.length_eq]
  have hpositions : List.Forall₂ Eq (List.range bs.length) (List.range bs.length) :=
    List.forall₂_refl _
  refine Both.bind (Both.mapM hpositions fun | i, _, rfl => expectList_alike h) fun _ _ h => ?_
  exact .given (List.rel_flatten h)

theorem positionsFrom_eq (hv : Alike zeros v v') (h : List.Forall₂ (Alike zeros) as bs) (n : Nat) :
    ((as.zipIdx n).filter fun e => e.1 == v).map (fun e => Value.ofInt (e.2 + 1)) =
      ((bs.zipIdx n).filter fun e => e.1 == v').map fun e => Value.ofInt (e.2 + 1) := by
  induction h generalizing n with
  | nil => rfl
  | @cons w w' _ _ hw _ ih =>
    have heq : (w == v) = (w' == v') := hw.equal_eq hv
    rw [List.zipIdx_cons, List.zipIdx_cons, List.filter_cons, List.filter_cons, heq]
    split
    · rw [List.map_cons, List.map_cons, ih]
    · exact ih _

theorem positionsOf_alike (hv : Alike zeros v v') (h : List.Forall₂ (Alike zeros) as bs) :
    List.Forall₂ (Alike zeros) (positionsOf v as) (positionsOf v' bs) := by
  have heq : positionsOf v as = positionsOf v' bs := positionsFrom_eq hv h 0
  rw [heq]
  refine List.forall₂_same.2 fun w hw => .refl ?_
  obtain ⟨e, -, rfl⟩ := List.mem_map.1 hw
  trivial

theorem impartial_onList {arity : Arity} {f : List Value → List Value → Value}
    (hf : ∀ as bs as' bs', List.Forall₂ (Alike zeros) as bs → List.Forall₂ (Alike zeros) as' bs' →
      Alike zeros (f as as') (f bs bs')) : (onList name arity f).Impartial zeros := by
  intro as bs h
  have hlist := expectList_alike (f := name) (i := 0) h
  have hbody : Both (Alike zeros) (do let items ← expectList name as 0; .ok (f items (as.drop 1)))
      (do let items ← expectList name bs 0; .ok (f items (bs.drop 1))) :=
    hlist.bind fun _ _ hitems => .given (hf _ _ _ _ hitems (List.forall₂_drop 1 h))
  cases h with
  | nil => exact hbody
  | cons hv h =>
    cases hv
    case null => exact .given .null
    all_goals exact hbody

theorem impartial_listToList {f : List Value → List Value}
    (hf : ∀ as bs, List.Forall₂ (Alike zeros) as bs → List.Forall₂ (Alike zeros) (f as) (f bs)) :
    (listToList name f).Impartial zeros := by
  intro as bs h
  exact (expectList_alike h).bind fun _ _ h => .given (.list (hf _ _ h))

theorem impartial_lists : ∀ f ∈ lists, f.Impartial zeros := by
  simp only [lists, List.forall_mem_cons, List.not_mem_nil, false_imp_iff, implies_true, and_true]
  refine ⟨?count, impartial_extreme, impartial_extreme, impartial_aggregate fun _ _ => total_alike,
    impartial_aggregate fun _ _ => average_alike, impartial_aggregate fun _ _ => product_alike,
    impartial_aggregate fun _ _ => median_alike, impartial_onList ?contains,
    impartial_onList ?append, ?concatenate, impartial_listToList fun _ _ h => List.rel_reverse h,
    ?indexOf, impartial_listToList fun _ _ => distinct_alike, ?union,
    impartial_listToList fun _ _ h => flattened_alike (.list h), ?sort, ?sublist⟩
  case count =>
    intro as bs h
    refine (expectList_alike h).bind fun _ _ h => .given ?_
    rw [h.length_eq]
    exact .refl trivial
  case contains =>
    intro as bs as' bs' h h'
    have hany : (as.any fun v => as'.any (v == ·)) = bs.any fun w => bs'.any (w == ·) :=
      any_eq_of_forall₂ h fun v w hv => any_eq_of_forall₂ h' fun v' w' hv' => hv.equal_eq hv'
    rw [hany]
    exact .boolean _
  case append => exact fun _ _ _ _ h h' => .list (List.rel_append h h')
  case concatenate => exact fun as bs h => (joinLists_alike h).bind fun _ _ h => .given (.list h)
  case indexOf =>
    intro as bs h
    refine (expectList_alike h).bind fun _ _ hitems => .given (.list ?_)
    exact positionsOf_alike (.getD_null (rel_getElem? h 1)) hitems
  case union =>
    exact fun as bs h => (joinLists_alike h).bind fun _ _ h => .given (.list (distinct_alike h))
  case sort =>
    exact fun as bs h => (expectList_alike h).bind fun _ _ h =>
      (sortItems_alike h).bind fun _ _ h => .given (.list h)
  case sublist =>
    exact fun as bs h => (expectList_alike h).bind fun _ _ hitems =>
      (selectPart_alike h hitems).bind fun _ _ h => .given (.list h)

end Builtin

end Rulebook
