import Mathlib.Data.List.Perm.Subperm
import Rulebook.Proofs.Number.Equality
import Rulebook.Proofs.Value.Keys

/-!
Equality of values, which is decided entry by entry in contexts and by value in numbers, can be
passed on from value to value. Between values without repeated names it holds both ways.
-/

namespace Rulebook

namespace Value

variable {a b c v : Value} {as bs : List (String × Value)} {x : Value} {xs : List Value}

attribute [local simp] equal equalItems entriesIn

theorem entriesIn_iff :
    entriesIn as bs = true ↔ ∀ e ∈ as, ∃ v, bs.lookup e.1 = some v ∧ equal e.2 v = true := by
  induction as with
  | nil => simp
  | cons e as ih =>
    obtain ⟨k, a⟩ := e
    simp only [entriesIn, Bool.and_eq_true, ih, List.forall_mem_cons]
    refine and_congr_left fun _ => ?_
    cases bs.lookup k <;> simp

theorem equal_number_iff {x : Float} :
    equal (.number x) v = true ↔ ∃ y, v = .number y ∧ Number.equal x y = true := by
  cases v <;> simp

theorem equal_nil_iff : equal (.list []) v = true ↔ v = .list [] := by
  cases v with
  | list ys => cases ys <;> simp
  | _ => simp

theorem equal_cons_iff :
    equal (.list (x :: xs)) v = true ↔
      ∃ y ys, v = .list (y :: ys) ∧ equal x y = true ∧ equal (.list xs) (.list ys) = true := by
  cases v with
  | list ys => cases ys <;> simp
  | _ => simp

theorem equal_context_iff :
    equal (.context as) v = true ↔ ∃ bs, v = .context bs ∧ as.length = bs.length ∧
      ∀ e ∈ as, ∃ v, bs.lookup e.1 = some v ∧ equal e.2 v = true := by
  cases v <;> simp [entriesIn_iff]

theorem equal_range_iff {s f : Value} {i j : Bool} :
    equal (.range s f i j) v = true ↔
      ∃ s' f', v = .range s' f' i j ∧ equal s s' = true ∧ equal f f' = true := by
  cases v with
  | range => simp; grind
  | _ => simp

theorem equal_trans (h₁ : equal a b = true) (h₂ : equal b c = true) : equal a c = true := by
  induction a using induction generalizing b c with
  | number x =>
    obtain ⟨y, rfl, hxy⟩ := equal_number_iff.1 h₁
    obtain ⟨z, rfl, hyz⟩ := equal_number_iff.1 h₂
    exact Number.equal_trans hxy hyz
  | list xs ih =>
    induction xs generalizing b c with
    | nil => rw [equal_nil_iff.1 h₁] at h₂; exact h₂
    | cons x xs ihs =>
      rw [List.forall_mem_cons] at ih
      obtain ⟨y, ys, rfl, hx, hxs⟩ := equal_cons_iff.1 h₁
      obtain ⟨z, zs, rfl, hy, hys⟩ := equal_cons_iff.1 h₂
      exact equal_cons_iff.2 ⟨z, zs, rfl, ih.1 hx hy, ihs ih.2 hxs hys⟩
  | context as ih =>
    obtain ⟨bs, rfl, hlen₁, h₁⟩ := equal_context_iff.1 h₁
    obtain ⟨cs, rfl, hlen₂, h₂⟩ := equal_context_iff.1 h₂
    refine equal_context_iff.2 ⟨cs, rfl, hlen₁.trans hlen₂, fun e he => ?_⟩
    obtain ⟨v, hv, hev⟩ := h₁ e he
    obtain ⟨w, hw, hvw⟩ := h₂ _ (Context.mem_of_lookup hv)
    exact ⟨w, hw, ih e he hev hvw⟩
  | range s f i j ihs ihf =>
    obtain ⟨s', f', rfl, hs₁, hf₁⟩ := equal_range_iff.1 h₁
    obtain ⟨s'', f'', rfl, hs₂, hf₂⟩ := equal_range_iff.1 h₂
    exact equal_range_iff.2 ⟨s'', f'', rfl, ihs hs₁ hs₂, ihf hf₁ hf₂⟩
  | _ => cases b <;> simp_all

-- There are as many names on both sides, and each of the first is among the second.
theorem keys_subset_of_equal (h : equal (.context as) (.context bs) = true)
    (ha : (Context.keys as).Nodup) : Context.keys bs ⊆ Context.keys as := by
  obtain ⟨_, heq, hlen, h⟩ := equal_context_iff.1 h
  cases heq
  have hsub : Context.keys as ⊆ Context.keys bs := by
    intro k hk
    obtain ⟨e, he, rfl⟩ := List.mem_map.1 hk
    obtain ⟨v, hv, -⟩ := h e he
    exact List.mem_map.2 ⟨(e.1, v), Context.mem_of_lookup hv, rfl⟩
  have hperm := (List.subperm_of_subset ha hsub).perm_of_length_le (by simp [Context.keys, hlen])
  exact hperm.symm.subset

theorem equal_symm (ha : a.UniqueKeys) (hb : b.UniqueKeys) (h : equal a b = true) :
    equal b a = true := by
  induction a using induction generalizing b with
  | number x =>
    obtain ⟨y, rfl, hxy⟩ := equal_number_iff.1 h
    exact equal_number_iff.2 ⟨x, rfl, Number.equal_comm x y ▸ hxy⟩
  | list xs ih =>
    induction xs generalizing b with
    | nil => rw [equal_nil_iff.1 h]; rfl
    | cons x xs ihs =>
      obtain ⟨y, ys, rfl, hx, hxs⟩ := equal_cons_iff.1 h
      rw [List.forall_mem_cons] at ih
      rw [uniqueKeys_list, List.forall_mem_cons] at ha hb
      have hys := ihs ih.2 (uniqueKeys_list.2 ha.2) (uniqueKeys_list.2 hb.2) hxs
      exact equal_cons_iff.2 ⟨x, xs, rfl, ih.1 ha.1 hb.1 hx, hys⟩
  | context as ih =>
    obtain ⟨bs, rfl, hlen, h'⟩ := equal_context_iff.1 h
    rw [uniqueKeys_context] at ha hb
    refine equal_context_iff.2 ⟨as, rfl, hlen.symm, fun e he => ?_⟩
    obtain ⟨⟨k, v⟩, hkv, hk⟩ :=
      List.mem_map.1 (keys_subset_of_equal h ha.1 (List.mem_map_of_mem he))
    obtain ⟨w, hw, hvw⟩ := h' _ hkv
    obtain rfl : k = e.1 := hk
    rw [Context.lookup_of_mem hb.1 he] at hw
    cases hw
    exact ⟨v, Context.lookup_of_mem ha.1 hkv, ih _ hkv (ha.2 _ hkv) (hb.2 _ he) hvw⟩
  | range s f i j ihs ihf =>
    obtain ⟨s', f', rfl, hs, hf⟩ := equal_range_iff.1 h
    exact equal_range_iff.2 ⟨s, f, rfl, ihs ha.1 hb.1 hs, ihf ha.2 hb.2 hf⟩
  | _ => cases b <;> simp_all

theorem equal_self_of_equal (ha : a.UniqueKeys) (hb : b.UniqueKeys) (h : equal a b = true) :
    equal a a = true :=
  equal_trans h (equal_symm ha hb h)

end Value

end Rulebook
