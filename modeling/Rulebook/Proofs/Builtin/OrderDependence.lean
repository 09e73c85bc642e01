import Rulebook.Proofs.Builtin.Reordering

/-!
The lists that are refused in one order of the items and answered in another. They are no more than
those that the zero duration keeps together: with the two kinds next to each other at the start
there is no answer, and there is one if the zero duration always comes between.
-/

namespace Rulebook

open Value (Comparable AtMost OneKind Bridged)

open Calendar (Duration)

namespace Calendar.Duration

variable {o : Ordering} {i k : Int}

def ofKind : Bool → Int → Duration
  | true, k => ⟨k, 0⟩
  | false, k => ⟨0, k⟩

theorem ofKind_zero (inMonths : Bool) : ofKind inMonths 0 = .zero := by
  cases inMonths <;> rfl

theorem exists_ofKind {d : Duration} (h : d.OneKind) : ∃ inMonths k, d = ofKind inMonths k := by
  obtain ⟨m, n⟩ := d
  obtain rfl | rfl : m = 0 ∨ n = 0 := h
  · exact ⟨false, n, rfl⟩
  · exact ⟨true, m, rfl⟩

theorem compare?_ofKind {inMonths : Bool} :
    (ofKind inMonths i).compare? (ofKind inMonths k) = some (Ord.compare i k) := by
  cases inMonths with
  | false => simp [ofKind, compare?, isDayTime]
  | true =>
    simp only [ofKind, compare?, isDayTime, isYearMonth]
    split_ifs <;> simp_all

end Calendar.Duration

namespace Value

open Calendar.Duration (ofKind Beyond)

variable {xs : List Value} {ends : List Ordering} {o : Ordering} {a v : Value} {inMonths : Bool}
  {i k : Int}

theorem exists_perm_cons (h : a ∈ xs) : ∃ rest, xs.Perm (a :: rest) := by
  obtain ⟨front, back, rfl⟩ := List.append_of_mem h
  exact ⟨front ++ back, List.perm_middle⟩

theorem compare?_ofKind :
    compare? (.duration (ofKind inMonths i)) (.duration (ofKind inMonths k)) =
      some (Ord.compare i k) :=
  Duration.compare?_ofKind

theorem compare?_zero :
    compare? (.duration (ofKind inMonths k)) (.duration .zero) = some (Ord.compare k 0) := by
  rw [← Duration.ofKind_zero inMonths, compare?_ofKind]

namespace Bridged

variable (hb : Bridged ends xs)

include hb

theorem null_not_mem : .null ∉ xs := by
  intro h
  obtain ⟨d, heq, -⟩ := hb.oneKind _ h
  cases heq

theorem exists_kind_not_beyond (ho : o ∈ ends) :
    ∃ inMonths, ∀ k, .duration (ofKind inMonths k) ∈ xs → ¬Beyond o k := by
  by_cases h : ∃ m, .duration (ofKind true m) ∈ xs ∧ Beyond o m
  · obtain ⟨m, hm, hbeyond⟩ := h
    exact ⟨false, fun n hn hn' => hb.apart o ho m n hm hn ⟨hbeyond, hn'⟩⟩
  · exact ⟨true, fun m hm hm' => h ⟨m, hm, hm'⟩⟩

theorem exists_ne_zero (inMonths : Bool) : ∃ k ≠ 0, .duration (ofKind inMonths k) ∈ xs := by
  obtain ⟨m, hm, n, hn, hmem, hmem'⟩ := hb.kinds
  cases inMonths with
  | true => exact ⟨m, hm, hmem⟩
  | false => exact ⟨n, hn, hmem'⟩

theorem not_beyond_both (ho : o ∈ ends) (hi : .duration (ofKind inMonths i) ∈ xs)
    (hk : .duration (ofKind (!inMonths) k) ∈ xs) : ¬(Beyond o i ∧ Beyond o k) := by
  cases inMonths with
  | true => exact hb.apart o ho i k hi hk
  | false => exact fun h => hb.apart o ho k i hk hi h.symm

-- The zero duration, the others of one kind, and those of the other kind.
theorem exists_split (inMonths : Bool) : ∃ near far, xs.Perm (.duration .zero :: (near ++ far)) ∧
    (∀ v ∈ near, ∃ k, v = .duration (ofKind inMonths k)) ∧
    ∀ v ∈ far, ∃ k, v = .duration (ofKind (!inMonths) k) := by
  classical
  obtain ⟨rest, hrest⟩ := exists_perm_cons hb.zero
  let isNear (v : Value) : Bool := ∃ k, v = .duration (ofKind inMonths k)
  refine ⟨rest.filter isNear, rest.filter (!isNear ·),
    hrest.trans ((List.filter_append_perm isNear rest).symm.cons _), fun v hv => ?_, fun v hv => ?_⟩
  · simpa [isNear] using (List.mem_filter.1 hv).2
  · obtain ⟨hv, hfar⟩ := List.mem_filter.1 hv
    obtain ⟨d, rfl, hd⟩ := hb.oneKind v (hrest.mem_iff.2 (.tail _ hv))
    obtain ⟨other, k, rfl⟩ := Duration.exists_ofKind hd
    obtain rfl | hother := Decidable.em (other = inMonths)
    · simp [isNear] at hfar
    · exact ⟨k, by rw [Bool.eq_not.2 hother]⟩

end Bridged

theorem pairwise_comparable_of_ofKind (h : ∀ v ∈ xs, ∃ k, v = .duration (ofKind inMonths k)) :
    xs.Pairwise Comparable := by
  refine List.pairwise_of_forall_mem_list fun v hv w hw => ?_
  obtain ⟨i, rfl⟩ := h v hv
  obtain ⟨k, rfl⟩ := h w hw
  rw [Comparable, compare?_ofKind, Option.isSome_some]

end Value

namespace Builtin

variable {v w m a b : Value} {items near far xs ys : List Value} {name : String}
  {ends : List Ordering} {wanted : Ordering}

-- Items that do not take over are passed by.
theorem best_append (h : ∀ w ∈ near, ∃ o ≠ wanted, Value.compare? w v = some o) :
    best name wanted v (near ++ far) = best name wanted v far := by
  induction near with
  | nil => rfl
  | cons w near ih =>
    rw [List.forall_mem_cons] at h
    obtain ⟨⟨o, ho, hcompare⟩, h⟩ := h
    rw [List.cons_append, best, hcompare]
    simpa [ho] using ih h

theorem refused_of_not_comparable (hf : OrdersBy name ends) (hnull : .null ∉ a :: b :: items)
    (h : ¬Comparable a b) :
    ∃ e, Registry.builtins.call name [.list (a :: b :: items)] = .error e := by
  have hba : Value.compare? b a = none := by
    rw [← Option.not_isSome_iff_eq_none]
    exact fun hba => h (Comparable.symm hba)
  cases hf with
  | sort =>
    have hsort : sortItems (a :: b :: items) = .error (.unordered "sort" b a) := by
      simp [sortItems, insertDownward, hba, bind, Except.bind]
    exact ⟨.unordered "sort" b a, by rw [call_sort, hsort]; rfl⟩
  | extreme he =>
    refine ⟨.unordered name b a, ?_⟩
    rw [call_extreme he, extreme_body, if_neg (any_isNull_iff.not.2 hnull), best, hba]

-- The items that are not beyond the zero duration come first.
theorem accepted_extreme (he : IsExtreme name wanted) (hb : Bridged [wanted] xs) :
    ∃ ys v, xs.Perm ys ∧ Registry.builtins.call name [.list ys] = .ok v := by
  obtain ⟨inMonths, hbeyond⟩ := hb.exists_kind_not_beyond (.head _)
  obtain ⟨near, far, hperm, hnear, hfar⟩ := hb.exists_split inMonths
  have hnull := (hb.perm hperm).null_not_mem
  have hpass : ∀ w ∈ near, ∃ o ≠ wanted, Value.compare? w (.duration .zero) = some o := by
    intro w hw
    obtain ⟨k, rfl⟩ := hnear w hw
    refine ⟨_, fun ho => hbeyond k (hperm.mem_iff.2 (by simp [hw])) ?_, Value.compare?_zero⟩
    cases he
    · exact Int.compare_eq_lt.1 ho
    · exact Int.compare_eq_gt.1 ho
  have hfar : ∀ v ∈ .duration .zero :: far, ∃ k, v = .duration (Duration.ofKind (!inMonths) k) := by
    rw [List.forall_mem_cons]
    exact ⟨⟨0, by rw [Duration.ofKind_zero]⟩, hfar⟩
  obtain ⟨m, hm⟩ := exists_best (Value.pairwise_comparable_of_ofKind hfar)
  refine ⟨_, m, hperm, ?_⟩
  rw [call_extreme he, extreme_body, if_neg (any_isNull_iff.not.2 hnull), best_append hpass, hm]

-- Both parts in order, with a value between them that no item of either is beyond.
theorem exists_isChain_around (hnear : near.Pairwise Comparable) (hfar : far.Pairwise Comparable)
    (hlow : ∀ w ∈ far, AtMost w v) (hhigh : ∀ w ∈ near, AtMost v w) :
    ∃ ys : List Value, (v :: (near ++ far)).Perm ys ∧ ys.IsChain AtMost := by
  obtain ⟨ups, hups⟩ := exists_sortItems hnear
  obtain ⟨downs, hdowns⟩ := exists_sortItems hfar
  have hups := isSorting_of_sortItems hups
  have hdowns := isSorting_of_sortItems hdowns
  have hrest : (near ++ far).Perm (downs ++ ups) :=
    List.perm_append_comm.trans (hdowns.perm.symm.append hups.perm.symm)
  refine ⟨downs ++ v :: ups, (hrest.cons v).trans List.perm_middle.symm, ?_⟩
  rw [List.isChain_append, List.isChain_cons]
  refine ⟨hdowns.ascending, ⟨fun w hw => ?_, hups.ascending⟩, fun w hw u hu => ?_⟩
  · exact hhigh w (hups.perm.mem_iff.1 (List.mem_of_mem_head? hw))
  · cases hu
    exact hlow w (hdowns.perm.mem_iff.1 (List.mem_of_mem_getLast? hw))

theorem accepted_sort (hb : Bridged [.lt, .gt] xs) :
    ∃ ys v, xs.Perm ys ∧ Registry.builtins.call "sort" [.list ys] = .ok v := by
  obtain ⟨inMonths, hbelow⟩ := hb.exists_kind_not_beyond (.head _)
  obtain ⟨near, far, hperm, hnear, hfar⟩ := hb.exists_split inMonths
  have hsub : near ++ far ⊆ xs := fun v hv => hperm.mem_iff.2 (.tail _ hv)
  obtain ⟨i, hi, hmem⟩ := hb.exists_ne_zero inMonths
  have hpos : 0 < i := by
    have := hbelow i hmem
    simp only [Duration.Beyond] at this
    omega
  have hlow : ∀ v ∈ far, AtMost v (.duration .zero) := by
    intro v hv
    obtain ⟨k, rfl⟩ := hfar v hv
    have := hb.not_beyond_both (.tail _ (.head _)) hmem (hsub (List.mem_append_right _ hv))
    simp only [Duration.Beyond] at this
    exact ⟨_, Value.compare?_zero, Int.isLE_compare.2 (by omega)⟩
  have hhigh : ∀ v ∈ near, AtMost (.duration .zero) v := by
    intro v hv
    obtain ⟨k, rfl⟩ := hnear v hv
    have := hbelow k (hsub (List.mem_append_left _ hv))
    simp only [Duration.Beyond] at this
    exact .of_isGE Value.compare?_zero (Int.isGE_compare.2 (by omega))
  obtain ⟨ys, hys, hchain⟩ :=
    exists_isChain_around (Value.pairwise_comparable_of_ofKind hnear)
      (Value.pairwise_comparable_of_ofKind hfar) hlow hhigh
  exact ⟨ys, .list ys, hperm.trans hys, by rw [call_sort, sortItems_of_isChain hchain]; rfl⟩

theorem exists_accepted (hf : OrdersBy name ends) (hb : Bridged ends xs) :
    ∃ ys v, xs.Perm ys ∧ Registry.builtins.call name [.list ys] = .ok v := by
  cases hf with
  | sort => exact accepted_sort hb
  | extreme he => exact accepted_extreme he hb

-- Two items of different kinds come first.
theorem exists_refused (hf : OrdersBy name ends) (hb : Bridged ends xs) :
    ∃ ys e, xs.Perm ys ∧ Registry.builtins.call name [.list ys] = .error e := by
  obtain ⟨m, hm, n, hn, hmem, hmem'⟩ := hb.kinds
  have hne : (.duration ⟨0, n⟩ : Value) ≠ .duration ⟨m, 0⟩ := by simp [hn]
  obtain ⟨others, hothers⟩ := Value.exists_perm_cons hmem
  obtain ⟨rest, hrest⟩ :=
    Value.exists_perm_cons ((List.mem_cons.1 (hothers.mem_iff.1 hmem')).resolve_left hne)
  have hperm := hothers.trans (hrest.cons _)
  have hclash : ¬Comparable (.duration ⟨m, 0⟩) (.duration ⟨0, n⟩) := by
    intro h
    have := Duration.isSome_compare?_iff.1 h
    simp_all [Duration.eq_iff]
  obtain ⟨e, he⟩ := refused_of_not_comparable hf (hb.perm hperm).null_not_mem hclash
  exact ⟨_, e, hperm, he⟩

theorem order_matters_iff (hf : OrdersBy name ends) :
    (∃ ys v zs e, xs.Perm ys ∧ Registry.builtins.call name [.list ys] = .ok v ∧
      xs.Perm zs ∧ Registry.builtins.call name [.list zs] = .error e) ↔ Bridged ends xs := by
  constructor
  · rintro ⟨ys, v, zs, e, hys, hv, hzs, he⟩
    obtain ⟨w, hw⟩ | hb := accepted_reordered hf (hys.symm.trans hzs) hv
    · rw [hw] at he
      cases he
    · exact hb.perm hys.symm
  · intro hb
    obtain ⟨ys, v, hys, hv⟩ := exists_accepted hf hb
    obtain ⟨zs, e, hzs, he⟩ := exists_refused hf hb
    exact ⟨ys, v, zs, e, hys, hv, hzs, he⟩

end Builtin

end Rulebook
