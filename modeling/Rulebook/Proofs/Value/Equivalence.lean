import Rulebook.Proofs.Value.Digest
import Rulebook.Proofs.Value.Within

/-!
Between values without repeated names, equality is an equivalence on those that hold no undefined
number, and equal values have one digest.
-/

namespace Rulebook.Value

variable {a b c v : Value} {xs : List Value} {as : List (String × Value)}

-- No number in the value is the undefined one.
def Defined (v : Value) : Prop :=
  ∀ x, Within (.number x) v → Number.isUndefined x = false

theorem defined_number {x : Float} : Defined (.number x) ↔ Number.isUndefined x = false := by
  constructor
  · intro h
    exact h x .self
  · intro h y hy
    cases hy
    exact h

theorem defined_list : Defined (.list xs) ↔ ∀ x ∈ xs, Defined x := by
  constructor
  · intro h x hx y hy
    exact h y (.item hx hy)
  · intro h y hy
    cases hy with
    | item hx hy => exact h _ hx y hy

theorem defined_context : Defined (.context as) ↔ ∀ e ∈ as, Defined e.2 := by
  constructor
  · intro h e he y hy
    exact h y (.entry he hy)
  · intro h y hy
    cases hy with
    | entry he hy => exact h _ he y hy

theorem defined_range {s f : Value} {i j : Bool} :
    Defined (.range s f i j) ↔ Defined s ∧ Defined f := by
  constructor
  · intro h
    exact ⟨fun y hy => h y (.start hy), fun y hy => h y (.finish hy)⟩
  · intro h y hy
    cases hy with
    | start hy => exact h.1 y hy
    | finish hy => exact h.2 y hy

theorem equal_list_self_iff : equal (.list xs) (.list xs) = true ↔ ∀ x ∈ xs, equal x x = true := by
  induction xs with
  | nil => simp [equal, equalItems]
  | cons x xs ih =>
    rw [List.forall_mem_cons, ← ih, equal_cons_iff]
    constructor
    · rintro ⟨_, _, heq, hx, hxs⟩
      cases heq
      exact ⟨hx, hxs⟩
    · rintro ⟨hx, hxs⟩
      exact ⟨x, xs, rfl, hx, hxs⟩

-- Each entry is found under its own name.
theorem equal_context_self_iff (h : (Context.keys as).Nodup) :
    equal (.context as) (.context as) = true ↔ ∀ e ∈ as, equal e.2 e.2 = true := by
  rw [equal_context_iff]
  constructor
  · rintro ⟨_, heq, -, hentries⟩ e he
    cases heq
    obtain ⟨v, hv, hev⟩ := hentries e he
    rw [Context.lookup_of_mem h he] at hv
    cases hv
    exact hev
  · intro hentries
    exact ⟨as, rfl, rfl, fun e he => ⟨e.2, Context.lookup_of_mem h he, hentries e he⟩⟩

theorem equal_self_iff_defined (h : v.UniqueKeys) : equal v v = true ↔ v.Defined := by
  induction v using induction with
  | number x =>
    rw [defined_number, ← Number.equal_self_iff]
    exact Iff.rfl
  | list xs ih =>
    rw [uniqueKeys_list] at h
    rw [equal_list_self_iff, defined_list]
    exact forall₂_congr fun x hx => ih x hx (h x hx)
  | context as ih =>
    rw [uniqueKeys_context] at h
    rw [equal_context_self_iff h.1, defined_context]
    exact forall₂_congr fun e he => ih e he (h.2 e he)
  | range s f i j hs hf =>
    rw [defined_range, ← hs h.1, ← hf h.2, equal_range_iff]
    constructor
    · rintro ⟨_, _, heq, hs, hf⟩
      cases heq
      exact ⟨hs, hf⟩
    · rintro ⟨hs, hf⟩
      exact ⟨s, f, rfl, hs, hf⟩
  | _ =>
    constructor
    · intro _ x hx
      cases hx
    · intro _
      simp [equal]

theorem equal_equivalence_and_digest (ha : a.UniqueKeys) (hb : b.UniqueKeys) :
    (equal a b = true → equal b a = true) ∧
      (equal a b = true → equal b c = true → equal a c = true) ∧
      (equal a a = true ↔ ∀ x, Within (.number x) a → Number.isUndefined x = false) ∧
      (equal a b = true → digest a = digest b) :=
  ⟨equal_symm ha hb, equal_trans, equal_self_iff_defined ha, digest_eq_of_equal ha hb⟩

-- The entries in either order, with either zero.
theorem equal_equivalence_and_digest_zeros :
    let a : Value := .context [("x", .number 0), ("y", .list [.string "z"])]
    let b : Value := .context [("y", .list [.string "z"]), ("x", .number (-0))]
    a.UniqueKeys ∧ b.UniqueKeys ∧ equal a b = true ∧ equal b a = true ∧
      (∀ x, Within (.number x) a → Number.isUndefined x = false) ∧ digest a = digest b := by
  intro a b
  have ha : a.UniqueKeys := by
    simp [a, Context.keys, UniqueKeys, UniqueInEntries, UniqueInItems]
  have hb : b.UniqueKeys := by
    simp [b, Context.keys, UniqueKeys, UniqueInEntries, UniqueInItems]
  have hequal : equal a b = true := by decide
  have hself : equal a a = true := by decide
  obtain ⟨hsymm, -, hdefined, hdigest⟩ := equal_equivalence_and_digest (c := b) ha hb
  exact ⟨ha, hb, hequal, hsymm hequal, hdefined.1 hself, hdigest hequal⟩

end Rulebook.Value
