import Rulebook.Proofs.Number.Zeros
import Rulebook.Proofs.Value.Equality
import Rulebook.Proofs.Value.Related

/-!
Values that are the same but for the order of entries and, where these do not count, the signs of
zeros. Equal values are alike, and alike values are equal unless an undefined number is among them;
no name comes twice.
-/

namespace Rulebook

namespace Value

open Number (Zeros)

inductive Alike (zeros : Zeros) : Value → Value → Prop
  | null : Alike zeros .null .null
  | boolean (b : Bool) : Alike zeros (.boolean b) (.boolean b)
  | number {x y : Float} (h : Number.Alike zeros x y) : Alike zeros (.number x) (.number y)
  | string (s : String) : Alike zeros (.string s) (.string s)
  | date (d : Calendar.Date) : Alike zeros (.date d) (.date d)
  | time (t : Calendar.Time) : Alike zeros (.time t) (.time t)
  | dateTime (d : Calendar.DateTime) : Alike zeros (.dateTime d) (.dateTime d)
  | duration (d : Calendar.Duration) : Alike zeros (.duration d) (.duration d)
  | list {xs ys : List Value} (h : List.Forall₂ (Alike zeros) xs ys) :
      Alike zeros (.list xs) (.list ys)
  | context {as bs : Context} (left : as.keys.Nodup) (right : bs.keys.Nodup)
      (h : ∀ k, Option.Rel (Alike zeros) (as.get? k) (bs.get? k)) :
      Alike zeros (.context as) (.context bs)
  | range {s s' f f' : Value} (hs : Alike zeros s s') (hf : Alike zeros f f') (i j : Bool) :
      Alike zeros (.range s f i j) (.range s' f' i j)

variable {zeros : Zeros} {a b c a' b' : Value}

theorem equal_list_iff {xs : List Value} : equal (.list xs) b = true ↔
    ∃ ys, b = .list ys ∧ List.Forall₂ (fun x y => equal x y = true) xs ys := by
  induction xs generalizing b with
  | nil => simp [equal_nil_iff, List.forall₂_nil_left_iff]
  | cons x xs ih =>
    rw [equal_cons_iff]
    constructor
    · rintro ⟨y, ys, rfl, hxy, h⟩
      obtain ⟨_, heq, h⟩ := ih.1 h
      cases heq
      exact ⟨_, rfl, .cons hxy h⟩
    · rintro ⟨_, rfl, h⟩
      cases h with
      | cons hxy h => exact ⟨_, _, rfl, hxy, ih.2 ⟨_, rfl, h⟩⟩

namespace Alike

theorem refl (h : a.UniqueKeys) : Alike zeros a a := by
  induction a using induction with
  | list xs ih =>
    rw [uniqueKeys_list] at h
    exact .list (List.forall₂_same.2 fun x hx => ih x hx (h x hx))
  | context as ih =>
    rw [uniqueKeys_context] at h
    refine .context h.1 h.1 fun k => ?_
    cases hk : Context.get? as k with
    | none => exact .none
    | some v =>
      have hmem := Context.mem_of_lookup hk
      exact .some (ih _ hmem (h.2 _ hmem))
  | range s f i j hs hf => exact .range (hs h.1) (hf h.2) i j
  | number x => exact .number (.refl x)
  | _ => constructor

theorem symm (h : Alike zeros a b) : Alike zeros b a := by
  induction a using induction generalizing b with
  | list xs ih =>
    cases h with
    | list h => exact .list (forall₂_imp h fun x hx y _ => ih x hx).flip
  | context as ih =>
    cases h with
    | context ha hb h =>
      refine .context hb ha fun k => rel_flip (rel_imp (h k) fun x hx y => ?_)
      exact ih _ (Context.mem_of_lookup hx)
  | range s f i j hs hf =>
    cases h with
    | range hs' hf' => exact .range (hs hs') (hf hf') i j
  | number x =>
    cases h with
    | number h => exact .number h.symm
  | _ => cases h; constructor

theorem trans (h₁ : Alike zeros a b) (h₂ : Alike zeros b c) : Alike zeros a c := by
  induction a using induction generalizing b c with
  | list xs ih =>
    cases h₁ with
    | list h₁ =>
      cases h₂ with
      | list h₂ => exact .list (forall₂_trans_of_mem h₁ h₂ fun x hx _ _ => ih x hx)
  | context as ih =>
    cases h₁ with
    | context ha _ h₁ =>
      cases h₂ with
      | context _ hc h₂ =>
        refine .context ha hc fun k => rel_trans (h₁ k) (h₂ k) fun x hx _ _ => ?_
        exact ih _ (Context.mem_of_lookup hx)
  | range s f i j hs hf =>
    cases h₁ with
    | range hs₁ hf₁ =>
      cases h₂ with
      | range hs₂ hf₂ => exact .range (hs hs₁ hs₂) (hf hf₁ hf₂) i j
  | number x =>
    cases h₁ with
    | number h₁ =>
      cases h₂ with
      | number h₂ => exact .number (h₁.trans h₂)
  | _ => cases h₁; exact h₂

theorem uniqueKeys (h : Alike zeros a b) : a.UniqueKeys := by
  induction a using induction generalizing b with
  | list xs ih =>
    cases h with
    | list h =>
      refine uniqueKeys_list.2 fun x hx => ?_
      obtain ⟨y, -, hxy⟩ := exists_of_mem h hx
      exact ih x hx hxy
  | context as ih =>
    cases h with
    | context ha _ h =>
      refine uniqueKeys_context.2 ⟨ha, fun e he => ?_⟩
      have hk := h e.1
      rw [Context.get?, Context.lookup_of_mem ha he] at hk
      obtain ⟨b, -, hb⟩ := exists_of_rel_some hk
      exact ih e he hb
  | range s f i j hs hf =>
    cases h with
    | range hs' hf' => exact ⟨hs hs', hf hf'⟩
  | _ => trivial

-- The same entries in another order.
theorem of_perm {as bs : Context} (ha : UniqueKeys (.context as)) (h : as.Perm bs) :
    Alike zeros (.context as) (.context bs) := by
  rw [uniqueKeys_context] at ha
  have hkeys : as.keys.Perm bs.keys := h.map _
  have hb : bs.keys.Nodup := hkeys.nodup_iff.1 ha.1
  refine .context ha.1 hb fun k => ?_
  cases hk : as.get? k with
  | none =>
    have hsome : (bs.get? k).isSome = (as.get? k).isSome := by
      rw [Bool.eq_iff_iff, ← Context.mem_keys_iff, ← Context.mem_keys_iff, hkeys.mem_iff]
    rw [hk, Option.isSome_none, Option.isSome_eq_false_iff, Option.isNone_iff_eq_none] at hsome
    rw [hsome]
    exact .none
  | some v =>
    have hmem := Context.mem_of_lookup hk
    rw [Context.get?, Context.lookup_of_mem hb (h.mem_iff.1 hmem)]
    exact .some (.refl (ha.2 _ hmem))

theorem of_equal (ha : a.UniqueKeys) (hb : b.UniqueKeys) (h : equal a b = true) :
    Alike .unsigned a b := by
  induction a using induction generalizing b with
  | number x =>
    obtain ⟨y, rfl, hxy⟩ := equal_number_iff.1 h
    exact .number (.of_equal hxy)
  | list xs ih =>
    obtain ⟨ys, rfl, hitems⟩ := equal_list_iff.1 h
    rw [uniqueKeys_list] at ha hb
    exact .list (forall₂_imp hitems fun x hx y hy => ih x hx (ha x hx) (hb y hy))
  | context as ih =>
    have h' := equal_symm ha hb h
    obtain ⟨bs, rfl, hlen, h⟩ := equal_context_iff.1 h
    obtain ⟨_, heq, -, h'⟩ := equal_context_iff.1 h'
    cases heq
    rw [uniqueKeys_context] at ha hb
    refine .context ha.1 hb.1 fun k => ?_
    cases hk : Context.get? as k with
    | none =>
      cases hk' : Context.get? bs k with
      | none => exact .none
      | some w =>
        obtain ⟨v, hv, -⟩ := h' _ (Context.mem_of_lookup hk')
        simp [Context.get?, hv] at hk
    | some v =>
      have hmem := Context.mem_of_lookup hk
      obtain ⟨w, hw, hvw⟩ := h _ hmem
      have hmem' := Context.mem_of_lookup hw
      rw [Context.get?, hw]
      exact .some (ih _ hmem (ha.2 _ hmem) (hb.2 _ hmem') hvw)
  | range s f i j hs hf =>
    obtain ⟨s', f', rfl, hs', hf'⟩ := equal_range_iff.1 h
    exact .range (hs ha.1 hb.1 hs') (hf ha.2 hb.2 hf') i j
  | null | boolean b | string s | date d | time t | dateTime d | duration d =>
    cases b <;> simp_all [equal]
    constructor

theorem equal_of_self (h : Alike zeros a b) (hself : equal a a = true) : equal a b = true := by
  induction a using induction generalizing b with
  | number x =>
    cases h with
    | number h => exact h.equal_of_self hself
  | list xs ih =>
    cases h with
    | list h =>
      obtain ⟨_, heq, hself⟩ := equal_list_iff.1 hself
      cases heq
      refine equal_list_iff.2 ⟨_, rfl, forall₂_imp h fun x hx y _ hxy => ?_⟩
      exact ih x hx hxy (List.forall₂_same.1 hself x hx)
  | context as ih =>
    cases h with
    | @context _ bs ha hb h =>
      obtain ⟨_, heq, -, hself⟩ := equal_context_iff.1 hself
      cases heq
      refine equal_context_iff.2 ⟨_, rfl, ?_, fun e he => ?_⟩
      · have hkeys : (Context.keys as).Perm (Context.keys bs) := by
          refine (List.perm_ext_iff_of_nodup ha hb).2 fun k => ?_
          rw [Context.mem_keys_iff, Context.mem_keys_iff, isSome_eq_of_rel (h k)]
        simpa [Context.keys] using hkeys.length_eq
      · have hk := h e.1
        rw [Context.get?, Context.lookup_of_mem ha he] at hk
        obtain ⟨b, hb, heb⟩ := exists_of_rel_some hk
        obtain ⟨v, hv, hev⟩ := hself e he
        rw [Context.lookup_of_mem ha he] at hv
        cases hv
        exact ⟨b, hb, ih e he heb hev⟩
  | range s f i j hs hf =>
    cases h with
    | range hs' hf' =>
      obtain ⟨_, _, heq, hs'', hf''⟩ := equal_range_iff.1 hself
      cases heq
      exact equal_range_iff.2 ⟨_, _, rfl, hs hs' hs'', hf hf' hf''⟩
  | _ => cases h; exact hself

theorem equal_eq (ha : Alike zeros a a') (hb : Alike zeros b b') : equal a b = equal a' b' := by
  have step {a a' b b' : Value} (ha : Alike zeros a a') (hb : Alike zeros b b')
      (h : equal a b = true) : equal a' b' = true := by
    have hself : equal a a = true := equal_self_of_equal ha.uniqueKeys hb.uniqueKeys h
    have ha' : equal a' a = true :=
      equal_symm ha.uniqueKeys ha.symm.uniqueKeys (ha.equal_of_self hself)
    have hb' : equal b b' = true := by
      refine hb.equal_of_self (equal_self_of_equal hb.uniqueKeys ha.uniqueKeys ?_)
      exact equal_symm ha.uniqueKeys hb.uniqueKeys h
    exact equal_trans ha' (equal_trans h hb')
  exact Bool.eq_iff_iff.2 ⟨step ha hb, step ha.symm hb.symm⟩

end Alike

end Value

end Rulebook
