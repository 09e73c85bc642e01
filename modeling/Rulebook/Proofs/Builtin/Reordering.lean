import Rulebook.Proofs.Builtin.Extremes
import Rulebook.Proofs.Value.Alike

/-!
Sorting, and looking for an extreme, with the items in two orders. Two answers are equal. A list
that holds two items without an order is refused in both orders, unless all items are durations of
two kinds, the zero duration is among them, and no more than one kind goes beyond it at each end
that the function turns to.
-/

namespace Rulebook

open Value (Comparable AtMost Before Leads Ahead Foremost)

namespace Calendar.Duration

variable {d e : Duration} {m n : Int}

def OneKind (d : Duration) : Prop := d.months = 0 ∨ d.millis = 0

-- Above zero for the upper end, below it for the lower one.
def Beyond : Ordering → Int → Prop
  | .gt, k => 0 < k
  | _, k => k < 0

theorem oneKind_iff (h : d.AtMost e ∨ d.Astride e) : d.OneKind ↔ e.OneKind := by
  rw [atMost_iff, Astride] at h
  rw [OneKind, OneKind]
  omega

theorem not_both_below (hm : d.AtMost ⟨m, 0⟩ ∨ d.Astride ⟨m, 0⟩)
    (hn : d.AtMost ⟨0, n⟩ ∨ d.Astride ⟨0, n⟩) : ¬(m < 0 ∧ n < 0) := by
  rw [atMost_iff, Astride] at hm hn
  dsimp only at hm hn
  omega

theorem not_both_above (hm : AtMost ⟨m, 0⟩ d ∨ Astride ⟨m, 0⟩ d)
    (hn : AtMost ⟨0, n⟩ d ∨ Astride ⟨0, n⟩ d) : ¬(0 < m ∧ 0 < n) := by
  rw [atMost_iff, Astride] at hm hn
  dsimp only at hm hn
  omega

theorem kinds_of_not_comparable (hd : d.OneKind) (he : e.OneKind)
    (h : ¬(d.compare? e).isSome = true) :
    ∃ m ≠ 0, ∃ n ≠ 0, d = ⟨m, 0⟩ ∧ e = ⟨0, n⟩ ∨ d = ⟨0, n⟩ ∧ e = ⟨m, 0⟩ := by
  rw [isSome_compare?_iff] at h
  obtain ⟨i, j⟩ := d
  obtain ⟨k, l⟩ := e
  obtain rfl | rfl : i = 0 ∨ j = 0 := hd
  · obtain rfl | rfl : k = 0 ∨ l = 0 := he
    · simp at h
    · exact ⟨k, by grind, j, by grind, .inr ⟨rfl, rfl⟩⟩
  · obtain rfl | rfl : k = 0 ∨ l = 0 := he
    · exact ⟨i, by grind, l, by grind, .inl ⟨rfl, rfl⟩⟩
    · simp at h

end Calendar.Duration

open Calendar (Duration)

namespace Value

variable {a b m v : Value} {d e : Duration} {items others : List Value} {wanted : Ordering}
  {ends : List Ordering}

def OneKind (v : Value) : Prop := ∃ d : Duration, v = .duration d ∧ d.OneKind

-- Durations of two kinds with the zero duration among them, and at each end only one kind.
structure Bridged (ends : List Ordering) (items : List Value) : Prop where
  oneKind : ∀ v ∈ items, v.OneKind
  zero : .duration .zero ∈ items
  kinds : ∃ m ≠ 0, ∃ n ≠ 0, .duration ⟨m, 0⟩ ∈ items ∧ .duration ⟨0, n⟩ ∈ items
  apart : ∀ o ∈ ends, ∀ m n, .duration ⟨m, 0⟩ ∈ items → .duration ⟨0, n⟩ ∈ items →
    ¬(Duration.Beyond o m ∧ Duration.Beyond o n)

theorem Bridged.perm (h : Bridged ends items) (hp : items.Perm others) : Bridged ends others := by
  obtain ⟨honeKind, hzero, hkinds, hapart⟩ := h
  simp only [hp.mem_iff] at honeKind hzero hkinds hapart
  exact ⟨honeKind, hzero, hkinds, hapart⟩

theorem before_duration_iff :
    Before (.duration d) (.duration e) ↔ d.AtMost e ∨ d.Astride e := by
  constructor
  · intro h
    cases h with
    | atMost h => exact .inl h
    | astride h => exact .inr h
  · rintro (h | h)
    · exact .atMost h
    · exact .astride h

theorem Before.exists_duration (h : Before a b) (hab : a = .duration d ∨ b = .duration d) :
    (∃ d, a = .duration d) ∧ ∃ e, b = .duration e := by
  cases h with
  | atMost h =>
    obtain ⟨o, h, -⟩ := h
    cases compare?_eq_some_iff.1 h <;> simp_all
  | astride => simp

theorem Before.oneKind_iff (h : Before a b) : a.OneKind ↔ b.OneKind := by
  constructor
  · rintro ⟨d, rfl, hd⟩
    obtain ⟨-, e, rfl⟩ := h.exists_duration (.inl rfl)
    exact ⟨e, rfl, (Duration.oneKind_iff (before_duration_iff.1 h)).1 hd⟩
  · rintro ⟨e, rfl, he⟩
    obtain ⟨⟨d, rfl⟩, -⟩ := h.exists_duration (.inr rfl)
    exact ⟨d, rfl, (Duration.oneKind_iff (before_duration_iff.1 h)).2 he⟩

theorem Leads.oneKind_iff (h : Leads wanted a b) : a.OneKind ↔ b.OneKind := by
  cases wanted with
  | gt => exact (Before.oneKind_iff h).symm
  | lt | eq => exact Before.oneKind_iff h

theorem not_beyond_of_leads {m n : Int} (hm : Leads wanted (.duration d) (.duration ⟨m, 0⟩))
    (hn : Leads wanted (.duration d) (.duration ⟨0, n⟩)) :
    ¬(Duration.Beyond wanted m ∧ Duration.Beyond wanted n) := by
  cases wanted with
  | gt => exact Duration.not_both_above (before_duration_iff.1 hm) (before_duration_iff.1 hn)
  | lt | eq => exact Duration.not_both_below (before_duration_iff.1 hm) (before_duration_iff.1 hn)

theorem exists_not_comparable (h : ¬items.Pairwise Comparable) :
    ∃ a ∈ items, ∃ b ∈ items, ¬Comparable a b := by
  contrapose! h
  exact List.pairwise_of_forall_mem_list h

theorem Foremost.zero_mem (h : Foremost items wanted m)
    (hall : ∀ w ∈ items, Ahead items wanted m w) (ha : a ∈ items) (hb : b ∈ items)
    (hab : ¬Comparable a b) : .duration .zero ∈ items := by
  obtain hma | hzero := (hall a ha).tied
  · obtain hmb | hzero := (hall b hb).tied
    · obtain hab' | hm := comparable_trans hma.symm hmb
      · exact absurd hab' hab
      · exact hm ▸ h.mem
    · exact hzero
  · exact hzero

-- What leads two items that have no order with each other.
theorem Foremost.bridged (h : Foremost items wanted m) (hc : ¬items.Pairwise Comparable) :
    Bridged [wanted] items := by
  have hall : ∀ w ∈ items, Ahead items wanted m w := by
    obtain hone | hall := h.ahead
    · rw [hone] at hc
      exact absurd (List.pairwise_singleton _ m) hc
    · exact hall
  obtain ⟨a, ha, b, hb, hab⟩ := exists_not_comparable hc
  have hzero := h.zero_mem hall ha hb hab
  have hm : m.OneKind := (hall _ hzero).leads.oneKind_iff.2 ⟨.zero, rfl, .inl rfl⟩
  have hkind : ∀ v ∈ items, v.OneKind := fun v hv => (hall v hv).leads.oneKind_iff.1 hm
  refine ⟨hkind, hzero, ?_, ?_⟩
  · obtain ⟨d, rfl, hd⟩ := hkind a ha
    obtain ⟨e, rfl, he⟩ := hkind b hb
    obtain ⟨i, hi, k, hk, ⟨rfl, rfl⟩ | ⟨rfl, rfl⟩⟩ := Duration.kinds_of_not_comparable hd he hab
    · exact ⟨i, hi, k, hk, ha, hb⟩
    · exact ⟨i, hi, k, hk, hb, ha⟩
  · intro o ho i k hi hk
    cases List.mem_singleton.1 ho
    obtain ⟨d, rfl, -⟩ := hm
    exact not_beyond_of_leads (hall _ hi).leads (hall _ hk).leads

-- Values on one level are equal.
theorem equal_of_isLevel (ha : v.isLevel a = true) (hb : v.isLevel b = true) :
    equal a b = true := by
  rw [isLevel_iff] at ha hb
  exact equal_of_compare? ((compare?_eq_of_level ha).trans (compare?_swap hb))

end Value

namespace Builtin

open Value (Bridged)

-- The functions that order a list, with the ends of the list that they turn to.
inductive OrdersBy : String → List Ordering → Prop
  | sort : OrdersBy "sort" [.lt, .gt]
  | extreme {name : String} {wanted : Ordering} (h : IsExtreme name wanted) :
      OrdersBy name [wanted]

variable {v w m : Value} {items sorted xs ys vs ws : List Value} {name : String}
  {ends : List Ordering} {wanted : Ordering}

theorem bridged_of_sorting (h : IsSorting items sorted) (hc : ¬items.Pairwise Comparable) :
    Bridged [.lt, .gt] items := by
  have hsome : sorted ≠ [] := by
    rintro rfl
    rw [← h.perm.nil_eq] at hc
    exact hc .nil
  have hlow := (h.foremost_head (List.head?_eq_some_head hsome)).bridged hc
  have hhigh := (h.foremost_getLast (List.getLast?_eq_some_getLast hsome)).bridged hc
  refine { hlow with apart := ?_ }
  rw [List.forall_mem_cons]
  exact ⟨hlow.apart .lt (.head _), hhigh.apart⟩

theorem accepted_of_comparable (hf : OrdersBy name ends) (h : items.Pairwise Comparable) :
    ∃ v, Registry.builtins.call name [.list items] = .ok v := by
  cases hf with
  | sort =>
    obtain ⟨sorted, hsorted⟩ := exists_sortItems h
    exact ⟨.list sorted, by rw [call_sort, hsorted]; rfl⟩
  | extreme he =>
    cases items with
    | nil => exact ⟨.null, call_extreme_null he (.inl rfl)⟩
    | cons v items =>
      obtain ⟨m, hm, -⟩ := exists_call_extreme he h (List.cons_ne_nil v items)
      exact ⟨m, hm⟩

theorem exists_of_call_sort (h : Registry.builtins.call "sort" [.list items] = .ok v) :
    ∃ sorted, v = .list sorted ∧ IsSorting items sorted := by
  rw [call_sort] at h
  cases hsorted : sortItems items with
  | error e =>
    rw [hsorted] at h
    cases h
  | ok sorted =>
    rw [hsorted] at h
    cases h
    exact ⟨sorted, rfl, isSorting_of_sortItems hsorted⟩

theorem accepted_reordered (hf : OrdersBy name ends) (h : xs.Perm ys)
    (hv : Registry.builtins.call name [.list xs] = .ok v) :
    (∃ w, Registry.builtins.call name [.list ys] = .ok w) ∨ Bridged ends xs := by
  by_cases hc : xs.Pairwise Comparable
  · exact .inl (accepted_of_comparable hf ((h.pairwise_iff Comparable.symm).1 hc))
  · cases hf with
    | sort =>
      obtain ⟨sorted, -, hsorted⟩ := exists_of_call_sort hv
      exact .inr (bridged_of_sorting hsorted hc)
    | extreme he =>
      by_cases hnull : .null ∈ xs
      · exact .inl ⟨.null, call_extreme_null he (.inr (h.mem_iff.1 hnull))⟩
      · have hne : xs ≠ [] := by
          rintro rfl
          exact hc .nil
        exact .inr ((foremost_of_call_extreme he hne hnull hv).bridged hc)

theorem forall₂_equal_of_sorting (hvs : IsSorting xs vs) (hws : IsSorting ys ws) (h : xs.Perm ys)
    (hself : ∀ v ∈ xs, v.isLevel v = true) :
    List.Forall₂ (fun v w => Value.equal v w = true) vs ws := by
  have hperm := hvs.perm.trans (h.trans hws.perm.symm)
  refine Value.forall₂_of_levels hvs.pairwise_before hws.pairwise_before ?_ fun v => ?_
  · intro v hv
    rw [List.mem_append, ← hperm.mem_iff, or_self, hvs.perm.mem_iff] at hv
    exact hself v hv
  · refine List.forall₂_iff_zip.2 ⟨(hperm.filter _).length_eq, fun hab => ?_⟩
    obtain ⟨ha, hb⟩ := List.of_mem_zip hab
    exact Value.equal_of_isLevel (List.mem_filter.1 ha).2 (List.mem_filter.1 hb).2

theorem equal_sorted (hvs : IsSorting xs vs) (hws : IsSorting ys ws) (h : xs.Perm ys) :
    (Value.list vs == .list ws) = true ∨ vs = ws ∧ ∃ u, xs = [u] ∧ (u == u) = false := by
  have hequal (hall : List.Forall₂ (fun v w => Value.equal v w = true) vs ws) :
      (Value.list vs == .list ws) = true := Value.equal_list_iff.2 ⟨ws, rfl, hall⟩
  match xs with
  | [] =>
    cases hvs.perm.eq_nil
    cases (hws.perm.trans h.symm).eq_nil
    exact .inl (hequal .nil)
  | [u] =>
    cases List.perm_singleton.1 hvs.perm
    cases List.perm_singleton.1 (hws.perm.trans h.symm)
    cases hself : u == u with
    | true => exact .inl (hequal (.cons hself .nil))
    | false => exact .inr ⟨rfl, u, rfl, hself⟩
  | u :: v :: xs =>
    have hself : ∀ w ∈ vs, w.isLevel w = true := by
      refine forall_mem_of_pairwise (fun hvw => ?_) hvs.pairwise_before
        (by simp [hvs.perm.length_eq])
      exact hvw.level_self.imp Value.isLevel_iff.2 Value.isLevel_iff.2
    refine .inl (hequal (forall₂_equal_of_sorting hvs hws h fun w hw => ?_))
    exact hself w (hvs.perm.mem_iff.2 hw)

theorem equal_reordered (hf : OrdersBy name ends) (h : xs.Perm ys)
    (hv : Registry.builtins.call name [.list xs] = .ok v)
    (hw : Registry.builtins.call name [.list ys] = .ok w) :
    (v == w) = true ∨ v = w ∧ ∃ u, xs = [u] ∧ (u == u) = false := by
  cases hf with
  | sort =>
    obtain ⟨vs, rfl, hvs⟩ := exists_of_call_sort hv
    obtain ⟨ws, rfl, hws⟩ := exists_of_call_sort hw
    exact (equal_sorted hvs hws h).imp_right fun h => ⟨by rw [h.1], h.2⟩
  | extreme he =>
    by_cases hnull : xs = [] ∨ .null ∈ xs
    · rw [call_extreme_null he hnull] at hv
      have hnull' : ys = [] ∨ .null ∈ ys :=
        hnull.imp (fun hnil => by simpa [hnil] using h) h.mem_iff.1
      rw [call_extreme_null he hnull'] at hw
      cases hv
      cases hw
      exact .inl rfl
    · rw [not_or] at hnull
      have hvs := foremost_of_call_extreme he hnull.1 hnull.2 hv
      have hne : ys ≠ [] := fun hnil => hnull.1 (by simpa [hnil] using h)
      have hws := foremost_of_call_extreme he hne (h.mem_iff.not.1 hnull.2) hw
      obtain heq | ⟨rfl, hone⟩ := hvs.equal (hws.perm h.symm)
      · exact .inl heq
      · cases hself : v == v with
        | true => exact .inl rfl
        | false => exact .inr ⟨rfl, v, hone, hself⟩

-- The one item of a list need not be equal to itself, and is the answer all the same.
theorem call_reordered (hf : OrdersBy name ends) (h : xs.Perm ys) :
    Both (fun v w => (v == w) = true ∨ v = w ∧ ∃ u, xs = [u] ∧ (u == u) = false)
        (Registry.builtins.call name [.list xs]) (Registry.builtins.call name [.list ys]) ∨
      Bridged ends xs ∧ ∀ v w, Registry.builtins.call name [.list xs] = .ok v →
        Registry.builtins.call name [.list ys] = .ok w → (v == w) = true := by
  by_cases hb : Bridged ends xs
  · refine .inr ⟨hb, fun v w hv hw => (equal_reordered hf h hv hw).resolve_right ?_⟩
    rintro ⟨-, u, rfl, -⟩
    obtain ⟨m, hm, n, hn, hmu, hnu⟩ := hb.kinds
    cases List.mem_singleton.1 hmu
    cases List.mem_singleton.1 hnu
    exact hm rfl
  · have hforth {v : Value} (hv : Registry.builtins.call name [.list xs] = .ok v) :=
      (accepted_reordered hf h hv).resolve_right hb
    have hback {w : Value} (hw : Registry.builtins.call name [.list ys] = .ok w) :=
      (accepted_reordered hf h.symm hw).resolve_right fun hb' => hb (hb'.perm h.symm)
    left
    cases hv : Registry.builtins.call name [.list xs] with
    | error e =>
      cases hw : Registry.builtins.call name [.list ys] with
      | error e' => exact .failed
      | ok w =>
        obtain ⟨v, hv'⟩ := hback hw
        rw [hv] at hv'
        cases hv'
    | ok v =>
      obtain ⟨w, hw⟩ := hforth hv
      rw [hw]
      exact .given (equal_reordered hf h hv hw)

-- Both kinds lie above the zero duration, which is no help then.
theorem call_reordered_durations :
    let xs := [.duration ⟨2, 0⟩, .duration ⟨0, 5⟩, .duration .zero]
    let ys := [.duration .zero, .duration ⟨2, 0⟩, .duration ⟨0, 5⟩]
    OrdersBy "sort" [.lt, .gt] ∧ xs.Perm ys ∧
      Both (fun v w => (v == w) = true ∨ v = w ∧ ∃ u, xs = [u] ∧ (u == u) = false)
        (Registry.builtins.call "sort" [.list xs]) (Registry.builtins.call "sort" [.list ys]) := by
  intro xs ys
  have hperm : xs.Perm ys := List.perm_append_singleton _ [_, _]
  refine ⟨.sort, hperm, ?_⟩
  obtain hboth | ⟨hbridged, -⟩ := call_reordered .sort hperm
  · exact hboth
  · have hapart := hbridged.apart .gt (.tail _ (.head _)) 2 5 (.head _) (.tail _ (.head _))
    exact absurd ⟨(by decide : (0 : Int) < 2), (by decide : (0 : Int) < 5)⟩ hapart

-- The items meet the zero duration first, or each other; and an undefined number is not equal to
-- itself.
theorem not_alike_in_each_order :
    let below := .duration ⟨-1, 0⟩
    let zero := .duration .zero
    let above := .duration ⟨0, 86400000⟩
    let undefined := .number Number.undefined
    let alike (name : String) (xs ys : List Value) := Both (fun v w => (v == w) = true)
      (Registry.builtins.call name [.list xs]) (Registry.builtins.call name [.list ys])
    [below, zero, above].Perm [above, below, zero] ∧
      [above, zero, below].Perm [above, below, zero] ∧
      ¬alike "sort" [below, zero, above] [above, below, zero] ∧
      ¬alike "max" [below, zero, above] [above, below, zero] ∧
      ¬alike "min" [above, zero, below] [above, below, zero] ∧
      ¬alike "sort" [undefined] [undefined] := by
  intro below zero above undefined alike
  refine ⟨List.perm_append_singleton _ [_, _], .cons _ (.swap ..), ?_⟩
  decide +kernel

end Builtin

end Rulebook
