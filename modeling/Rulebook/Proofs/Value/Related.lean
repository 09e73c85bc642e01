import Mathlib.Data.List.Forall2

/-!
Lists, optional values and outcomes that are related part by part. Two outcomes are related if both
are failures, or if both are answers that are related.
-/

namespace Rulebook

section

variable {α β : Type} {R : α → β → Prop} {T : α → α → Prop} {as : List α} {bs : List β}
  {o : Option α} {p : Option β}

theorem forall₂_imp {S : α → β → Prop} (h : List.Forall₂ R as bs)
    (hi : ∀ a ∈ as, ∀ b ∈ bs, R a b → S a b) : List.Forall₂ S as bs := by
  induction h with
  | nil => exact .nil
  | cons hr _ ih =>
    refine .cons (hi _ (.head _) _ (.head _) hr) (ih fun a ha b hb => ?_)
    exact hi a (.tail _ ha) b (.tail _ hb)

theorem forall₂_trans_of_mem {bs cs : List α} (h₁ : List.Forall₂ T as bs)
    (h₂ : List.Forall₂ T bs cs) (ht : ∀ a ∈ as, ∀ b c, T a b → T b c → T a c) :
    List.Forall₂ T as cs := by
  induction h₁ generalizing cs with
  | nil => exact h₂
  | cons hr _ ih =>
    rw [List.forall_mem_cons] at ht
    cases h₂ with
    | cons hs h₂ => exact .cons (ht.1 _ _ hr hs) (ih h₂ ht.2)

theorem rel_imp {S : α → β → Prop} (h : Option.Rel R o p)
    (hi : ∀ a, o = some a → ∀ b, R a b → S a b) : Option.Rel S o p := by
  cases h with
  | none => exact .none
  | some hr => exact .some (hi _ rfl _ hr)

theorem exists_of_mem (h : List.Forall₂ R as bs) {a : α} (ha : a ∈ as) : ∃ b ∈ bs, R a b := by
  induction h with
  | nil => simp at ha
  | cons hr _ ih =>
    obtain rfl | ha := List.mem_cons.1 ha
    · exact ⟨_, .head _, hr⟩
    · obtain ⟨b, hb, hr⟩ := ih ha
      exact ⟨b, .tail _ hb, hr⟩

theorem exists_of_rel_some {a : α} (h : Option.Rel R (some a) p) : ∃ b, p = some b ∧ R a b := by
  cases h with
  | some hr => exact ⟨_, rfl, hr⟩

theorem isSome_eq_of_rel (h : Option.Rel R o p) : o.isSome = p.isSome := by
  cases h <;> rfl

theorem rel_flip (h : Option.Rel R o p) : Option.Rel (flip R) p o := by
  cases h with
  | none => exact .none
  | some hr => exact .some hr

theorem rel_trans {p q : Option α} (h₁ : Option.Rel T o p) (h₂ : Option.Rel T p q)
    (ht : ∀ a, o = some a → ∀ b c, T a b → T b c → T a c) : Option.Rel T o q := by
  cases h₁ with
  | none => exact h₂
  | some hr =>
    cases h₂ with
    | some hs => exact .some (ht _ rfl _ _ hr hs)

theorem any_eq_of_forall₂ {p : α → Bool} {q : β → Bool} (h : List.Forall₂ R as bs)
    (hp : ∀ a b, R a b → p a = q b) : as.any p = bs.any q := by
  induction h with
  | nil => rfl
  | cons hr _ ih => rw [List.any_cons, List.any_cons, hp _ _ hr, ih]

theorem all_eq_of_forall₂ {p : α → Bool} {q : β → Bool} (h : List.Forall₂ R as bs)
    (hp : ∀ a b, R a b → p a = q b) : as.all p = bs.all q := by
  induction h with
  | nil => rfl
  | cons hr _ ih => rw [List.all_cons, List.all_cons, hp _ _ hr, ih]

theorem rel_getElem? (h : List.Forall₂ R as bs) (i : Nat) : Option.Rel R as[i]? bs[i]? := by
  induction h generalizing i with
  | nil => exact .none
  | cons hr _ ih =>
    cases i with
    | zero => exact .some hr
    | succ i => simpa using ih i

theorem rel_or {o' : Option α} {p' : Option β} (h : Option.Rel R o p) (h' : Option.Rel R o' p') :
    Option.Rel R (o.or o') (p.or p') := by
  cases h with
  | none => exact h'
  | some h => exact .some h

theorem rel_map {γ δ : Type} {S : γ → δ → Prop} {f : α → γ} {g : β → δ} (h : Option.Rel R o p)
    (hf : ∀ a b, R a b → S (f a) (g b)) : Option.Rel S (o.map f) (p.map g) := by
  cases h with
  | none => exact .none
  | some h => exact .some (hf _ _ h)

theorem rel_findSome? {γ : Type} {f : γ → Option α} {g : γ → Option β}
    (h : ∀ a, Option.Rel R (f a) (g a)) (cs : List γ) :
    Option.Rel R (cs.findSome? f) (cs.findSome? g) := by
  induction cs with
  | nil => exact .none
  | cons c cs ih =>
    have ha := h c
    rw [List.findSome?_cons, List.findSome?_cons]
    generalize f c = o at ha ⊢
    generalize g c = p at ha ⊢
    cases ha with
    | none => exact ih
    | some ha => exact .some ha

end

-- Both fail, whatever the errors, or both succeed and the answers are related.
inductive Both {ε ε' α β : Type} (R : α → β → Prop) : Except ε α → Except ε' β → Prop
  | failed {e : ε} {e' : ε'} : Both R (.error e) (.error e')
  | given {a : α} {b : β} (h : R a b) : Both R (.ok a) (.ok b)

namespace Both

instance {ε ε' α β : Type} {R : α → β → Prop} [∀ a b, Decidable (R a b)] {x : Except ε α}
    {y : Except ε' β} : Decidable (Both R x y) :=
  match x, y with
  | .error _, .error _ => isTrue .failed
  | .ok a, .ok b => decidable_of_iff (R a b) ⟨.given, fun | .given h => h⟩
  | .error _, .ok _ => isFalse nofun
  | .ok _, .error _ => isFalse nofun

variable {ε ε' α β γ δ : Type} {R : α → β → Prop} {S : γ → δ → Prop} {x : Except ε α}
  {y : Except ε' β}

theorem same : Both Eq x x := by
  cases x with
  | error e => exact .failed
  | ok a => exact .given rfl

theorem imp {S : α → β → Prop} (h : Both R x y) (hi : ∀ a b, R a b → S a b) : Both S x y := by
  cases h with
  | failed => exact .failed
  | given h => exact .given (hi _ _ h)

theorem bind {f : α → Except ε γ} {g : β → Except ε' δ} (h : Both R x y)
    (hf : ∀ a b, R a b → Both S (f a) (g b)) : Both S (x >>= f) (y >>= g) := by
  cases h with
  | failed => exact .failed
  | given h => exact hf _ _ h

theorem map {f : α → γ} {g : β → δ} (h : Both R x y) (hf : ∀ a b, R a b → S (f a) (g b)) :
    Both S (x.map f) (y.map g) := by
  cases h with
  | failed => exact .failed
  | given h => exact .given (hf _ _ h)

theorem ite {c : Prop} [Decidable c] {x₁ x₂ : Except ε α} {y₁ y₂ : Except ε' β}
    (h₁ : Both R x₁ y₁) (h₂ : Both R x₂ y₂) :
    Both R (if c then x₁ else x₂) (if c then y₁ else y₂) := by
  split
  · exact h₁
  · exact h₂

theorem mapError {ζ ζ' : Type} {f : ε → ζ} {g : ε' → ζ'} (h : Both R x y) :
    Both R (x.mapError f) (y.mapError g) := by
  cases h with
  | failed => exact .failed
  | given h => exact .given h

theorem mapM {f : α → Except ε γ} {g : β → Except ε' δ} {as : List α} {bs : List β}
    (h : List.Forall₂ R as bs) (hf : ∀ a b, R a b → Both S (f a) (g b)) :
    Both (List.Forall₂ S) (as.mapM f) (bs.mapM g) := by
  induction h with
  | nil => exact .given .nil
  | cons hr _ ih =>
    rw [List.mapM_cons, List.mapM_cons]
    exact (hf _ _ hr).bind fun _ _ hs => ih.bind fun _ _ hss => .given (.cons hs hss)

theorem foldlM {f : γ → α → Except ε γ} {g : δ → β → Except ε' δ} {as : List α} {bs : List β}
    {c : γ} {d : δ} (h : List.Forall₂ R as bs) (hc : S c d)
    (hf : ∀ c d a b, S c d → R a b → Both S (f c a) (g d b)) :
    Both S (as.foldlM f c) (bs.foldlM g d) := by
  induction h generalizing c d with
  | nil => exact .given hc
  | cons hr _ ih =>
    rw [List.foldlM_cons, List.foldlM_cons]
    exact (hf _ _ _ _ hc hr).bind fun _ _ hs => ih hs

end Both

section

variable {ε α β : Type} {x : Except ε α} {b : β}

theorem bind_eq_ok_iff {f : α → Except ε β} : x >>= f = .ok b ↔ ∃ a, x = .ok a ∧ f a = .ok b := by
  cases x with
  | error e => exact ⟨nofun, nofun⟩
  | ok a => exact ⟨fun h => ⟨a, rfl, h⟩, fun ⟨_, ha, h⟩ => Except.ok.inj ha ▸ h⟩

theorem map_eq_ok_iff {f : α → β} : x.map f = .ok b ↔ ∃ a, x = .ok a ∧ f a = b := by
  cases x with
  | error e => exact ⟨nofun, nofun⟩
  | ok a => simp [Except.map]

theorem mapM_eq_ok_iff {f : α → Except ε β} {as : List α} {bs : List β} :
    as.mapM f = .ok bs ↔ List.Forall₂ (fun a b => f a = .ok b) as bs := by
  induction as generalizing bs with
  | nil =>
    rw [List.mapM_nil, List.forall₂_nil_left_iff]
    exact ⟨fun h => (Except.ok.inj h).symm, fun h => congrArg Except.ok h.symm⟩
  | cons a as ih =>
    have hcons (b : β) (bs' : List β) :
        (pure (b :: bs') : Except ε (List β)) = .ok bs ↔ bs = b :: bs' :=
      ⟨fun h => (Except.ok.inj h).symm, fun h => h ▸ rfl⟩
    simp only [List.mapM_cons, List.forall₂_cons_left_iff, bind_eq_ok_iff, ih, hcons,
      exists_and_left]

end

end Rulebook
