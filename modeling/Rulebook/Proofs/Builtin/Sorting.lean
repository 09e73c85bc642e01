import Mathlib.Data.List.Chain
import Rulebook.Builtin.Lists
import Rulebook.Proofs.Value.Order
import Rulebook.Proofs.Value.Related

/-!
Sorting by insertion. An answer is the items in another order, each at most as great as the next,
and items on one level stay in the order in which they came. There is an answer as soon as all items
have an order with each other, and the extremes are then those of the sorted list.
-/

namespace Rulebook

open Value (Comparable AtMost Before)

-- Each of at least two items is in a pair.
theorem forall_mem_of_pairwise {α : Type} {P : α → Prop} {R : α → α → Prop} {as : List α}
    (hr : ∀ {a b}, R a b → P a ∧ P b) (h : as.Pairwise R) (hlen : 2 ≤ as.length) :
    ∀ a ∈ as, P a := by
  match as, hlen with
  | a :: b :: as, _ =>
    have ha : ∀ c ∈ b :: as, R a c := fun _ => List.rel_of_pairwise_cons h
    rw [List.forall_mem_cons]
    exact ⟨(hr (ha b (.head _))).1, fun c hc => (hr (ha c hc)).2⟩

namespace Value

variable {v w u : Value}

def isLevel (v w : Value) : Bool := compare? w v == some .eq

theorem isLevel_iff : v.isLevel w = true ↔ compare? w v = some .eq := beq_iff_eq

-- Of two values on one level, none is less than the other.
theorem not_isLevel_of_lt (hlt : compare? v w = some .lt) (hv : u.isLevel v = true) :
    u.isLevel w = false := by
  rw [Bool.eq_false_iff]
  intro hw
  rw [isLevel_iff] at hv hw
  rw [compare?_eq_of_level hv, compare?_swap hw] at hlt
  cases hlt

section

variable {vs ws : List Value} {E : Value → Value → Prop}

theorem before_of_isLevel (hws : (w :: ws).Pairwise Before) (hu : u ∈ w :: ws)
    (h : v.isLevel u = true) : Before w v := by
  have huv : Before u v := .atMost ⟨.eq, isLevel_iff.1 h, rfl⟩
  obtain rfl | hu := List.mem_cons.1 hu
  · exact huv
  · exact (List.rel_of_pairwise_cons hws hu).trans huv

theorem exists_isLevel (h : List.Forall₂ E (vs.filter v.isLevel) (ws.filter v.isLevel))
    (hv : v ∈ vs) (hself : v.isLevel v = true) : ∃ w ∈ ws, v.isLevel w = true := by
  obtain ⟨w, hw, -⟩ := exists_of_mem h (List.mem_filter.2 ⟨hv, hself⟩)
  exact ⟨w, List.mem_filter.1 hw⟩

-- Ordered lists are related item by item as soon as they are so level by level.
theorem forall₂_of_levels (hvs : vs.Pairwise Before) (hws : ws.Pairwise Before)
    (hself : ∀ v ∈ vs ++ ws, v.isLevel v = true)
    (h : ∀ v : Value, List.Forall₂ E (vs.filter v.isLevel) (ws.filter v.isLevel)) :
    List.Forall₂ E vs ws := by
  induction vs generalizing ws with
  | nil =>
    cases ws with
    | nil => exact .nil
    | cons w ws => simpa using exists_isLevel (h w).flip (.head _) (hself w (.head _))
  | cons v vs ih =>
    have hv := hself v (.head _)
    cases ws with
    | nil => simpa using exists_isLevel (h v) (.head _) hv
    | cons w ws =>
      have hw := hself w (by simp)
      obtain ⟨w', hw', hvw'⟩ := exists_isLevel (h v) (.head _) hv
      obtain ⟨v', hv', hwv'⟩ := exists_isLevel (h w).flip (.head _) hw
      have hlevel := (before_of_isLevel hvs hv' hwv').antisymm (before_of_isLevel hws hw' hvw')
      have hsame (u : Value) : u.isLevel v = u.isLevel w := by
        rw [isLevel, isLevel, compare?_eq_of_level hlevel]
      have hheads := h v
      rw [List.filter_cons_of_pos hv, List.filter_cons_of_pos (hsame v ▸ hv)] at hheads
      refine .cons (List.forall₂_cons.1 hheads).1 (ih hvs.of_cons hws.of_cons ?_ fun u => ?_)
      · intro u hu
        exact hself u (by grind)
      · have hu := h u
        cases huv : u.isLevel v with
        | false => simpa [huv, ← hsame u] using hu
        | true =>
          rw [List.filter_cons_of_pos huv, List.filter_cons_of_pos (hsame u ▸ huv)] at hu
          exact (List.forall₂_cons.1 hu).2

end

end Value

namespace Builtin

structure IsSorting (items sorted : List Value) : Prop where
  perm : sorted.Perm items
  ascending : sorted.IsChain AtMost
  stable : ∀ v : Value, sorted.filter v.isLevel = items.filter v.isLevel

variable {v w m : Value} {items before downward result sorted : List Value} {name : String}
  {wanted : Ordering}

-- An item goes below every item that it is less than, and stops in front of the first other one.
theorem insertDownward_cons (h : insertDownward v (w :: downward) = .ok result) :
    (Value.compare? v w = some .lt ∧
        ∃ others, insertDownward v downward = .ok others ∧ result = w :: others) ∨
      AtMost w v ∧ result = v :: w :: downward := by
  rw [insertDownward] at h
  split at h
  case h_1 hlt =>
    obtain ⟨others, hothers, hresult⟩ := bind_eq_ok_iff.1 h
    cases hresult
    exact .inl ⟨hlt, others, hothers, rfl⟩
  case h_2 o hne ho =>
    cases h
    exact .inr ⟨.of_isGE ho (by cases o <;> simp_all), rfl⟩
  case h_3 => cases h

theorem insertDownward_perm (h : insertDownward v downward = .ok result) :
    result.Perm (v :: downward) := by
  induction downward generalizing result with
  | nil =>
    cases h
    exact .refl _
  | cons w downward ih =>
    obtain ⟨-, others, hothers, rfl⟩ | ⟨-, rfl⟩ := insertDownward_cons h
    · exact ((ih hothers).cons w).trans (.swap ..)
    · exact .refl _

theorem insertDownward_reverse_perm (h : insertDownward v downward = .ok result) :
    result.reverse.Perm (v :: downward.reverse) :=
  result.reverse_perm.trans ((insertDownward_perm h).trans (downward.reverse_perm.symm.cons v))

theorem insertDownward_head (h : insertDownward v downward = .ok result) :
    ∀ w ∈ result.head?, w = v ∨ w ∈ downward.head? := by
  cases downward with
  | nil =>
    cases h
    simp
  | cons w downward => obtain ⟨-, others, -, rfl⟩ | ⟨-, rfl⟩ := insertDownward_cons h <;> simp

theorem insertDownward_descends (h : insertDownward v downward = .ok result)
    (hd : downward.IsChain fun a b => AtMost b a) : result.IsChain fun a b => AtMost b a := by
  induction downward generalizing result with
  | nil =>
    cases h
    exact .singleton v
  | cons w downward ih =>
    obtain ⟨hlt, others, hothers, rfl⟩ | ⟨hle, rfl⟩ := insertDownward_cons h
    · rw [List.isChain_cons] at hd ⊢
      refine ⟨fun first hfirst => ?_, ih hothers hd.2⟩
      obtain rfl | hfirst := insertDownward_head hothers first hfirst
      · exact ⟨.lt, hlt, rfl⟩
      · exact hd.1 first hfirst
    · exact .cons_cons hle hd

theorem insertDownward_stable (u : Value) (h : insertDownward v downward = .ok result) :
    result.filter u.isLevel = (v :: downward).filter u.isLevel := by
  induction downward generalizing result with
  | nil =>
    cases h
    rfl
  | cons w downward ih =>
    obtain ⟨hlt, others, hothers, rfl⟩ | ⟨-, rfl⟩ := insertDownward_cons h
    · rw [List.filter_cons, ih hothers]
      cases hv : u.isLevel v with
      | false => simp [List.filter_cons, hv]
      | true => simp [hv, Value.not_isLevel_of_lt hlt hv]
    · rfl

theorem exists_insertDownward (h : ∀ w ∈ downward, Comparable v w) :
    ∃ result, insertDownward v downward = .ok result := by
  induction downward with
  | nil => exact ⟨_, rfl⟩
  | cons w downward ih =>
    rw [List.forall_mem_cons] at h
    obtain ⟨o, ho⟩ := Option.isSome_iff_exists.1 h.1
    obtain ⟨others, hothers⟩ := ih h.2
    cases o with
    | lt => exact ⟨w :: others, by simp [insertDownward, ho, hothers, bind, Except.bind]⟩
    | eq | gt => exact ⟨v :: w :: downward, by simp [insertDownward, ho]⟩

-- One more item, put in its place.
theorem IsSorting.insert (hs : IsSorting before downward.reverse)
    (h : insertDownward v downward = .ok result) :
    IsSorting (before ++ [v]) result.reverse where
  perm :=
    (insertDownward_reverse_perm h).trans
      ((hs.perm.cons v).trans (List.perm_append_singleton v before).symm)
  ascending := by
    rw [List.isChain_reverse]
    exact insertDownward_descends h (List.isChain_reverse.1 hs.ascending)
  stable u := by
    have hstable := hs.stable u
    rw [List.filter_reverse] at hstable
    rw [List.filter_reverse, insertDownward_stable u h, List.filter_append, ← hstable]
    cases hv : u.isLevel v <;> simp [hv]

theorem isSorting_of_foldlM (hs : IsSorting before downward.reverse)
    (h : items.foldlM (fun sorted v => insertDownward v sorted) downward = .ok result) :
    IsSorting (before ++ items) result.reverse := by
  induction items generalizing before downward with
  | nil =>
    cases h
    simpa using hs
  | cons v items ih =>
    rw [List.foldlM_cons] at h
    obtain ⟨others, hinsert, hothers⟩ := bind_eq_ok_iff.1 h
    simpa using ih (hs.insert hinsert) hothers

theorem isSorting_of_sortItems (h : sortItems items = .ok sorted) : IsSorting items sorted := by
  obtain ⟨downward, hfold, hsorted⟩ := bind_eq_ok_iff.1 h
  cases hsorted
  have hnil : IsSorting [] [] := ⟨.refl _, .nil, fun _ => rfl⟩
  exact isSorting_of_foldlM hnil hfold

-- Items meet in some order, and have one with whatever they meet.
theorem exists_foldlM_insertDownward (h : (downward.reverse ++ items).Pairwise Comparable) :
    ∃ result, items.foldlM (fun sorted v => insertDownward v sorted) downward = .ok result := by
  induction items generalizing downward with
  | nil => exact ⟨downward, rfl⟩
  | cons v items ih =>
    have hv : ∀ w ∈ downward, Comparable v w := by
      intro w hw
      have := (List.pairwise_append.1 h).2.2 w (List.mem_reverse.2 hw) v (.head _)
      exact this.symm
    obtain ⟨others, hothers⟩ := exists_insertDownward hv
    have hperm : (others.reverse ++ items).Perm (downward.reverse ++ v :: items) :=
      ((insertDownward_reverse_perm hothers).append_right items).trans List.perm_middle.symm
    obtain ⟨result, hresult⟩ := ih ((hperm.pairwise_iff Comparable.symm).2 h)
    exact ⟨result, by rw [List.foldlM_cons, hothers]; exact hresult⟩

theorem exists_sortItems (h : items.Pairwise Comparable) :
    ∃ sorted, sortItems items = .ok sorted := by
  have h : ([].reverse ++ items).Pairwise Comparable := h
  obtain ⟨downward, hdownward⟩ := exists_foldlM_insertDownward h
  exact ⟨downward.reverse, by rw [sortItems, hdownward]; rfl⟩

theorem insertDownward_of_atMost (h : ∀ w ∈ downward.head?, AtMost w v) :
    insertDownward v downward = .ok (v :: downward) := by
  cases downward with
  | nil => rfl
  | cons w downward =>
    obtain ⟨o, ho, hle⟩ := h w rfl
    rw [insertDownward, Value.compare?_swap ho]
    cases o with
    | lt | eq => rfl
    | gt => cases hle

theorem foldlM_insertDownward_of_isChain (h : (downward.reverse ++ items).IsChain AtMost) :
    items.foldlM (fun sorted v => insertDownward v sorted) downward =
      .ok (items.reverse ++ downward) := by
  induction items generalizing downward with
  | nil => rfl
  | cons v items ih =>
    have hv : ∀ w ∈ downward.head?, AtMost w v := by
      intro w hw
      exact (List.isChain_append.1 h).2.2 w (by simpa using hw) v rfl
    rw [List.foldlM_cons, insertDownward_of_atMost hv]
    simpa [bind, Except.bind] using ih (by simpa using h)

-- What is in order stays as it is.
theorem sortItems_of_isChain (h : items.IsChain AtMost) : sortItems items = .ok items := by
  rw [sortItems, foldlM_insertDownward_of_isChain (by simpa using h)]
  simp [bind, Except.bind]

theorem IsSorting.pairwise_before (h : IsSorting items sorted) : sorted.Pairwise Before :=
  (h.ascending.imp fun _ _ => .atMost).pairwise

theorem IsSorting.pairwise_atMost (h : IsSorting items sorted) (hc : items.Pairwise Comparable) :
    sorted.Pairwise AtMost := by
  have hc := (h.perm.pairwise_iff Comparable.symm).2 hc
  exact h.pairwise_before.imp₂ (fun _ _ => Before.atMost_of_comparable) hc

-- There is one answer, however it is found.
theorem IsSorting.unique {others : List Value} (h : IsSorting items sorted)
    (h' : IsSorting items others) (hc : items.Pairwise Comparable) : sorted = others := by
  have hperm := h.perm.trans h'.perm.symm
  match hlen : sorted.length with
  | 0 =>
    cases List.length_eq_zero_iff.1 hlen
    exact hperm.nil_eq
  | 1 =>
    obtain ⟨v, rfl⟩ := List.length_eq_one_iff.1 hlen
    exact List.singleton_perm.1 hperm
  | n + 2 =>
    have hself : ∀ v ∈ items, v.isLevel v = true := by
      refine forall_mem_of_pairwise (fun hvw => ?_) hc (by simp [← h.perm.length_eq, hlen])
      exact ⟨Value.isLevel_iff.2 hvw.level_self, Value.isLevel_iff.2 hvw.symm.level_self⟩
    rw [← List.forall₂_eq_eq_eq]
    refine Value.forall₂_of_levels h.pairwise_before h'.pairwise_before ?_ fun v => ?_
    · simpa [or_imp, forall_and, h.perm.mem_iff, h'.perm.mem_iff] using hself
    · rw [h.stable, h'.stable]
      exact List.forall₂_refl _

end Builtin

end Rulebook
