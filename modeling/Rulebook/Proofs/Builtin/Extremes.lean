import Rulebook.Builtin.Basic
import Rulebook.Proofs.Builtin.Sorting

/-!
The extremes of a list. The item that is left at the end leads all others, and so does the item at
that end of the sorted list. Items have an order only with those of their type, so one that leads
all others has an order with them, or there is a zero duration between them.
-/

namespace Rulebook

open Value (Comparable AtMost Before)

namespace Value

-- Earlier in the list that is sorted upwards, or in the one that is sorted downwards.
def Leads : Ordering → Value → Value → Prop
  | .gt, a, b => Before b a
  | _, a, b => Before a b

-- The one item leads the other, and has an order with it unless the zero duration is an item.
structure Ahead (items : List Value) (wanted : Ordering) (a b : Value) : Prop where
  leads : Leads wanted a b
  tied : Comparable a b ∨ .duration .zero ∈ items
  mem : a ∈ items ∧ b ∈ items

-- Ahead of every item, itself included, but for the one item of a list.
structure Foremost (items : List Value) (wanted : Ordering) (m : Value) : Prop where
  mem : m ∈ items
  ahead : items = [m] ∨ ∀ w ∈ items, Ahead items wanted m w

variable {a b c m n : Value} {items others : List Value} {wanted : Ordering}

theorem Leads.trans (h₁ : Leads wanted a b) (h₂ : Leads wanted b c) : Leads wanted a c := by
  cases wanted with
  | gt => exact Before.trans h₂ h₁
  | lt | eq => exact Before.trans h₁ h₂

theorem Leads.antisymm (h₁ : Leads wanted a b) (h₂ : Leads wanted b a) :
    compare? a b = some .eq := by
  cases wanted with
  | gt => exact Before.antisymm h₂ h₁
  | lt | eq => exact Before.antisymm h₁ h₂

theorem Leads.level_self (h : Leads wanted a b) :
    compare? a a = some .eq ∧ compare? b b = some .eq := by
  cases wanted with
  | gt => exact (Before.level_self h).symm
  | lt | eq => exact Before.level_self h

theorem leads_self (h : compare? a a = some .eq) : Leads wanted a a := by
  cases wanted <;> exact .atMost ⟨.eq, h, rfl⟩

namespace Ahead

theorem trans (h₁ : Ahead items wanted a b) (h₂ : Ahead items wanted b c) :
    Ahead items wanted a c where
  leads := h₁.leads.trans h₂.leads
  tied := by
    obtain hab | hzero := h₁.tied
    · obtain hbc | hzero := h₂.tied
      · refine (comparable_trans hab hbc).imp_right fun hb => ?_
        rw [← hb]
        exact h₁.mem.2
      · exact .inr hzero
    · exact .inr hzero
  mem := ⟨h₁.mem.1, h₂.mem.2⟩

instance : Trans (Ahead items wanted) (Ahead items wanted) (Ahead items wanted) := ⟨trans⟩

theorem of_atMost (h : AtMost a b) (ha : a ∈ items) (hb : b ∈ items) : Ahead items .lt a b :=
  ⟨.atMost h, .inl h.comparable, ha, hb⟩

theorem flip (h : Ahead items .lt a b) : Ahead items .gt b a :=
  ⟨h.leads, h.tied.imp_left .symm, h.mem.symm⟩

theorem self (h : compare? a a = some .eq) (ha : a ∈ items) : Ahead items wanted a a :=
  ⟨leads_self h, .inl (by rw [Comparable, h, Option.isSome_some]), ha, ha⟩

theorem self_left (h : Ahead items wanted a b) : Ahead items wanted a a :=
  self h.leads.level_self.1 h.mem.1

theorem perm (h : Ahead items wanted a b) (hp : items.Perm others) : Ahead others wanted a b :=
  ⟨h.leads, h.tied.imp_right hp.mem_iff.1, h.mem.imp hp.mem_iff.1 hp.mem_iff.1⟩

end Ahead

namespace Foremost

theorem perm (h : Foremost items wanted m) (hp : items.Perm others) :
    Foremost others wanted m where
  mem := hp.mem_iff.1 h.mem
  ahead := by
    obtain hone | hall := h.ahead
    · rw [hone] at hp
      exact .inl (List.singleton_perm.1 hp).symm
    · exact .inr fun w hw => (hall w (hp.mem_iff.2 hw)).perm hp

-- There is one foremost item, up to equality.
theorem equal (h₁ : Foremost items wanted m) (h₂ : Foremost items wanted n) :
    (m == n) = true ∨ m = n ∧ items = [m] := by
  obtain hone | hm := h₁.ahead
  · have hn := h₂.mem
    rw [hone] at hn
    exact .inr ⟨(List.mem_singleton.1 hn).symm, hone⟩
  · obtain hone | hn := h₂.ahead
    · have hm := h₁.mem
      rw [hone] at hm
      cases List.mem_singleton.1 hm
      exact .inr ⟨rfl, hone⟩
    · exact .inl (equal_of_compare? ((hm n h₂.mem).leads.antisymm (hn m h₁.mem).leads))

end Foremost

end Value

namespace Builtin

open Value (Ahead Foremost)

-- The functions that look for an extreme, and how a later item has to compare to take over.
inductive IsExtreme : String → Ordering → Prop
  | min : IsExtreme "min" .lt
  | max : IsExtreme "max" .gt

variable {v w m : Value} {items all sorted : List Value} {name : String} {wanted o : Ordering}

theorem call_sort :
    Registry.builtins.call "sort" [.list items] = (sortItems items).map .list := by
  have hfind : Registry.builtins.find? "sort" = some ⟨"sort", .exact 1, true, fun arguments => do
      .ok (.list (← sortItems (← expectList "sort" arguments 0)))⟩ := rfl
  rw [Registry.call, hfind]
  rfl

theorem call_extreme (he : IsExtreme name wanted) :
    Registry.builtins.call name [.list items] = (extreme name wanted).body [.list items] := by
  cases he with
  | min =>
    have hfind : Registry.builtins.find? "min" = some (extreme "min" .lt) := rfl
    rw [Registry.call, hfind]
    rfl
  | max =>
    have hfind : Registry.builtins.find? "max" = some (extreme "max" .gt) := rfl
    rw [Registry.call, hfind]
    rfl

theorem ahead_of_compare? (he : IsExtreme name wanted) (h : Value.compare? v w = some o)
    (hv : v ∈ all) (hw : w ∈ all) :
    if o = wanted then Ahead all wanted v w else Ahead all wanted w v := by
  cases he <;> cases o
  case min.lt => exact .of_atMost ⟨.lt, h, rfl⟩ hv hw
  case min.eq | min.gt => exact .of_atMost (.of_isGE h rfl) hw hv
  case max.gt => exact (Ahead.of_atMost (.of_isGE h rfl) hw hv).flip
  case max.lt | max.eq => exact (Ahead.of_atMost ⟨_, h, rfl⟩ hv hw).flip

-- Of two items that meet, one is left, and it is ahead of both.
theorem best_cons (he : IsExtreme name wanted) (hsub : v :: w :: items ⊆ all)
    (h : best name wanted v (w :: items) = .ok m) :
    ∃ next ∈ [v, w], (∀ u ∈ [v, w], Ahead all wanted next u) ∧
      best name wanted next items = .ok m := by
  rw [best] at h
  split at h
  case h_1 o ho =>
    have hahead := ahead_of_compare? he ho (hsub (.tail _ (.head _))) (hsub (.head _))
    simp only [beq_iff_eq] at h
    split at h
    case isTrue heq =>
      rw [if_pos heq] at hahead
      exact ⟨w, by simp, by simp [hahead, hahead.self_left], h⟩
    case isFalse hne =>
      rw [if_neg hne] at hahead
      exact ⟨v, by simp, by simp [hahead, hahead.self_left], h⟩
  case h_2 => cases h

theorem best_ahead (he : IsExtreme name wanted) (hsub : v :: items ⊆ all)
    (h : best name wanted v items = .ok m) :
    items = [] ∧ m = v ∨ ∀ w ∈ v :: items, Ahead all wanted m w := by
  induction items generalizing v with
  | nil =>
    cases h
    exact .inl ⟨rfl, rfl⟩
  | cons w items ih =>
    obtain ⟨next, hnext, hahead, h⟩ := best_cons he hsub h
    have hrest : next :: items ⊆ all := by
      have : [v, w] ⊆ all := fun u hu => hsub (List.mem_append_left items hu)
      exact List.cons_subset.2 ⟨this hnext, fun u hu => hsub (.tail _ (.tail _ hu))⟩
    refine .inr fun u hu => ?_
    obtain hu | hu : u ∈ [v, w] ∨ u ∈ items := List.mem_append.1 hu
    · obtain ⟨rfl, rfl⟩ | hall := ih hrest h
      · exact hahead u hu
      · exact (hall next (.head _)).trans (hahead u hu)
    · obtain ⟨rfl, -⟩ | hall := ih hrest h
      · cases hu
      · exact hall u (.tail _ hu)

theorem foremost_of_best (he : IsExtreme name wanted) (h : best name wanted v items = .ok m) :
    Foremost (v :: items) wanted m := by
  obtain ⟨rfl, rfl⟩ | hall := best_ahead he (List.Subset.refl _) h
  · exact ⟨.head _, .inl rfl⟩
  · exact ⟨(hall v (.head _)).mem.1, .inr hall⟩

theorem exists_best (h : (v :: items).Pairwise Comparable) :
    ∃ m, best name wanted v items = .ok m := by
  induction items generalizing v with
  | nil => exact ⟨v, rfl⟩
  | cons w items ih =>
    have hvw : Comparable v w := List.rel_of_pairwise_cons h (.head _)
    obtain ⟨o, ho⟩ := Option.isSome_iff_exists.1 hvw.symm
    simp only [best, ho]
    split
    · exact ih h.of_cons
    · exact ih (h.sublist (.cons_cons v (List.sublist_cons_self w items)))

theorem extreme_body : (extreme name wanted).body [.list (v :: items)] =
    if (v :: items).any Value.isNull then .ok .null else best name wanted v items :=
  rfl

theorem any_isNull_iff : items.any Value.isNull = true ↔ .null ∈ items := by
  rw [List.any_eq_true]
  constructor
  · rintro ⟨v, hv, hnull⟩
    cases v <;> cases hnull
    exact hv
  · intro h
    exact ⟨.null, h, rfl⟩

-- A null has no order with anything, so it can only be the one item.
theorem extreme_body_of_pairwise (h : (v :: items).Pairwise Comparable) :
    (extreme name wanted).body [.list (v :: items)] = best name wanted v items := by
  rw [extreme_body]
  split
  case isFalse => rfl
  case isTrue hnull =>
    rw [any_isNull_iff] at hnull
    cases items with
    | nil =>
      cases List.mem_singleton.1 hnull
      rfl
    | cons w items =>
      have hself := forall_mem_of_pairwise (fun h => ⟨h.level_self, h.symm.level_self⟩) h (by simp)
      cases hself _ hnull

theorem exists_call_extreme (he : IsExtreme name wanted) (h : items.Pairwise Comparable)
    (hne : items ≠ []) :
    ∃ m, Registry.builtins.call name [.list items] = .ok m ∧ Foremost items wanted m := by
  match items, hne with
  | v :: items, _ =>
    obtain ⟨m, hm⟩ := exists_best h
    exact ⟨m, by rw [call_extreme he, extreme_body_of_pairwise h, hm], foremost_of_best he hm⟩

theorem call_extreme_null (he : IsExtreme name wanted) (h : items = [] ∨ .null ∈ items) :
    Registry.builtins.call name [.list items] = .ok .null := by
  rw [call_extreme he]
  cases items with
  | nil => rfl
  | cons v items =>
    have hnull : .null ∈ v :: items := h.resolve_left (List.cons_ne_nil v items)
    rw [extreme_body, if_pos (any_isNull_iff.2 hnull)]

theorem foremost_of_call_extreme (he : IsExtreme name wanted) (hne : items ≠ [])
    (hnull : .null ∉ items) (h : Registry.builtins.call name [.list items] = .ok m) :
    Foremost items wanted m := by
  match items, hne with
  | v :: items, _ =>
    rw [call_extreme he, extreme_body, if_neg (any_isNull_iff.not.2 hnull)] at h
    exact foremost_of_best he h

section

variable (h : IsSorting items sorted)

include h

theorem IsSorting.pairwise_ahead : sorted.Pairwise (Ahead items .lt) := by
  refine List.IsChain.pairwise (h.ascending.imp_of_mem_imp fun v w hv hw hvw => ?_)
  exact .of_atMost hvw (h.perm.mem_iff.1 hv) (h.perm.mem_iff.1 hw)

theorem IsSorting.foremost_head (hm : sorted.head? = some m) : Foremost items .lt m := by
  obtain ⟨others, rfl⟩ := List.head?_eq_some_iff.1 hm
  refine ⟨h.perm.mem_iff.1 (.head _), ?_⟩
  cases others with
  | nil => exact .inl (List.singleton_perm.1 h.perm).symm
  | cons v others =>
    have hahead := (List.pairwise_cons.1 h.pairwise_ahead).1
    refine .inr fun w hw => ?_
    obtain rfl | hw := List.mem_cons.1 (h.perm.mem_iff.2 hw)
    · exact (hahead v (.head _)).self_left
    · exact hahead w hw

theorem IsSorting.foremost_getLast (hm : sorted.getLast? = some m) : Foremost items .gt m := by
  obtain ⟨others, rfl⟩ := List.getLast?_eq_some_iff.1 hm
  refine ⟨h.perm.mem_iff.1 (by simp), ?_⟩
  cases others with
  | nil => exact .inl (List.singleton_perm.1 h.perm).symm
  | cons v others =>
    have hahead := (List.pairwise_append.1 h.pairwise_ahead).2.2
    refine .inr fun w hw => ?_
    obtain hw | hw := List.mem_append.1 (h.perm.mem_iff.2 hw)
    · exact (hahead w hw m (.head _)).flip
    · cases List.mem_singleton.1 hw
      exact (hahead v (.head _) m (.head _)).flip.self_left

end

-- One item alone need not have an order with itself.
theorem call_sort_and_extremes (h : items.Pairwise Comparable) :
    ∃ sorted, Registry.builtins.call "sort" [.list items] = .ok (.list sorted) ∧
      sorted.Perm items ∧ sorted.Pairwise AtMost ∧
      (∀ v : Value, sorted.filter v.isLevel = items.filter v.isLevel) ∧
      (items ≠ [] → ∃ first last lowest highest,
        sorted.head? = some first ∧ sorted.getLast? = some last ∧
        Registry.builtins.call "min" [.list items] = .ok lowest ∧
        Registry.builtins.call "max" [.list items] = .ok highest ∧
        ((lowest == first) = true ∧ (highest == last) = true ∨
          ∃ v, items = [v] ∧ Value.compare? v v = none ∧ lowest = v ∧ highest = v)) := by
  obtain ⟨sorted, hsorted⟩ := exists_sortItems h
  have hs := isSorting_of_sortItems hsorted
  refine ⟨sorted, by rw [call_sort, hsorted]; rfl, hs.perm, hs.pairwise_atMost h, hs.stable, ?_⟩
  intro hne
  obtain ⟨lowest, hlowest, hlow⟩ := exists_call_extreme .min h hne
  obtain ⟨highest, hhighest, hhigh⟩ := exists_call_extreme .max h hne
  have hsome : sorted ≠ [] := by
    rintro rfl
    exact hne hs.perm.nil_eq.symm
  have hfirst := hs.foremost_head (List.head?_eq_some_head hsome)
  have hlast := hs.foremost_getLast (List.getLast?_eq_some_getLast hsome)
  refine ⟨_, _, lowest, highest, List.head?_eq_some_head hsome,
    List.getLast?_eq_some_getLast hsome, hlowest, hhighest, ?_⟩
  by_cases hone : ∃ v, items = [v]
  · obtain ⟨v, rfl⟩ := hone
    rw [List.mem_singleton.1 hlow.mem, List.mem_singleton.1 hhigh.mem,
      List.mem_singleton.1 hfirst.mem, List.mem_singleton.1 hlast.mem]
    cases hv : Value.compare? v v with
    | none => exact .inr ⟨v, rfl, hv, rfl, rfl⟩
    | some o =>
      have hcomparable : Comparable v v := by rw [Comparable, hv, Option.isSome_some]
      have hself : (v == v) = true := Value.equal_of_compare? hcomparable.level_self
      exact .inl ⟨hself, hself⟩
  · rw [not_exists] at hone
    exact .inl ⟨(hlow.equal hfirst).resolve_right fun h => hone _ h.2,
      (hhigh.equal hlast).resolve_right fun h => hone _ h.2⟩

theorem call_sort_and_extremes_durations :
    let items := [.duration ⟨3, 0⟩, .duration .zero, .duration ⟨-2, 0⟩]
    items.Pairwise Comparable ∧
      ∃ sorted first last lowest highest,
        Registry.builtins.call "sort" [.list items] = .ok (.list sorted) ∧
        sorted.Perm items ∧ sorted.Pairwise AtMost ∧
        sorted.head? = some first ∧ sorted.getLast? = some last ∧
        Registry.builtins.call "min" [.list items] = .ok lowest ∧ (lowest == first) = true ∧
        Registry.builtins.call "max" [.list items] = .ok highest ∧ (highest == last) = true := by
  intro items
  have hc : items.Pairwise Comparable := by decide
  obtain ⟨sorted, hsort, hperm, hsorted, -, hends⟩ := call_sort_and_extremes hc
  obtain ⟨first, last, lowest, highest, hfirst, hlast, hmin, hmax, hequal⟩ := hends nofun
  obtain ⟨hlow, hhigh⟩ | ⟨v, hone, -⟩ := hequal
  · exact ⟨hc, sorted, first, last, lowest, highest, hsort, hperm, hsorted, hfirst, hlast, hmin,
      hlow, hmax, hhigh⟩
  · simp [items] at hone

end Builtin

end Rulebook
