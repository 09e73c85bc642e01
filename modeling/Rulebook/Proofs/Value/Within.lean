import Rulebook.Proofs.Value.Keys

/-!
The values inside a value, itself and those inside its items, its entries and its bounds, and what
holds of every context among them. Operations that build no context pass it on from their operands
to their answer.
-/

namespace Rulebook

namespace Value

inductive Within (w : Value) : Value → Prop
  | self : Within w w
  | item {items : List Value} {v : Value} (hv : v ∈ items) (h : Within w v) :
      Within w (.list items)
  | entry {entries : List (String × Value)} {e : String × Value} (he : e ∈ entries)
      (h : Within w e.2) : Within w (.context entries)
  | start {s f : Value} {i j : Bool} (h : Within w s) : Within w (.range s f i j)
  | finish {s f : Value} {i j : Bool} (h : Within w f) : Within w (.range s f i j)

-- Neither a context nor put together from other values.
def isPlain : Value → Bool
  | list _ | context _ | range .. => false
  | _ => true

def EachContext (p : Context → Prop) (v : Value) : Prop :=
  ∀ entries, Within (.context entries) v → p entries

variable {p : Context → Prop} {v s f : Value} {items : List Value} {c : Context} {i j : Bool}

theorem eachContext_of_isPlain (h : v.isPlain = true) : EachContext p v := by
  intro entries hw
  cases hw <;> cases h

theorem eachContext_list : EachContext p (.list items) ↔ ∀ v ∈ items, EachContext p v := by
  constructor
  · intro h v hv entries hw
    exact h entries (.item hv hw)
  · intro h entries hw
    cases hw with
    | item hv hw => exact h _ hv entries hw

theorem eachContext_context :
    EachContext p (.context c) ↔ p c ∧ ∀ e ∈ c, EachContext p e.2 := by
  constructor
  · intro h
    exact ⟨h c .self, fun e he entries hw => h entries (.entry he hw)⟩
  · rintro ⟨hc, h⟩ entries hw
    cases hw with
    | self => exact hc
    | entry he hw => exact h _ he entries hw

theorem eachContext_empty (h : p .empty) : EachContext p (.context Context.empty) :=
  eachContext_context.2 ⟨h, nofun⟩

theorem eachContext_range :
    EachContext p (.range s f i j) ↔ EachContext p s ∧ EachContext p f := by
  constructor
  · intro h
    exact ⟨fun entries hw => h entries (.start hw), fun entries hw => h entries (.finish hw)⟩
  · rintro ⟨hs, hf⟩ entries hw
    cases hw with
    | start hw => exact hs entries hw
    | finish hw => exact hf entries hw

theorem eachContext_getD {o : Option Value} (h : ∀ v, o = some v → EachContext p v) :
    EachContext p (o.getD .null) := by
  cases o with
  | none => exact eachContext_of_isPlain rfl
  | some v => exact h v rfl

theorem uniqueKeys_iff_eachContext :
    v.UniqueKeys ↔ EachContext (fun c => c.keys.Nodup) v := by
  induction v using induction with
  | list items ih =>
    rw [uniqueKeys_list, eachContext_list]
    exact forall₂_congr ih
  | context entries ih =>
    rw [uniqueKeys_context, eachContext_context]
    exact and_congr_right fun _ => forall₂_congr ih
  | range s f i j hs hf =>
    rw [UniqueKeys, hs, hf, eachContext_range]
  | _ => exact iff_of_true trivial (eachContext_of_isPlain rfl)

end Value

-- If there is an answer, `P` holds of it.
def Ensures {ε α : Type} (P : α → Prop) : Except ε α → Prop
  | .ok a => P a
  | .error _ => True

namespace Ensures

variable {ε α β : Type} {P : α → Prop} {Q : β → Prop} {x : Except ε α} {a : α}

theorem of_ok (h : Ensures P x) (hx : x = .ok a) : P a := by
  rw [hx] at h
  exact h

theorem unit : Ensures (fun _ => True) x := by
  cases x <;> trivial

theorem mono {P' : α → Prop} (h : Ensures P x) (hP : ∀ a, P a → P' a) : Ensures P' x := by
  cases x with
  | error e => trivial
  | ok a => exact hP a h

theorem bind {f : α → Except ε β} (h : Ensures P x) (hf : ∀ a, P a → Ensures Q (f a)) :
    Ensures Q (x >>= f) := by
  cases x with
  | error e => trivial
  | ok a => exact hf a h

theorem bind_congr {f g : α → Except ε β} (h : Ensures P x) (hfg : ∀ a, P a → f a = g a) :
    x >>= f = x >>= g := by
  cases x with
  | error e => rfl
  | ok a => exact hfg a h

-- What is read first does not matter.
theorem after {f : α → Except ε β} (hf : ∀ a, Ensures Q (f a)) : Ensures Q (x >>= f) :=
  unit.bind fun a _ => hf a

theorem map {f : α → β} (h : Ensures P x) (hf : ∀ a, P a → Q (f a)) : Ensures Q (x.map f) := by
  cases x with
  | error e => trivial
  | ok a => exact hf a h

theorem ite {c : Prop} [Decidable c] {y : Except ε α} (hx : Ensures P x) (hy : Ensures P y) :
    Ensures P (if c then x else y) := by
  split
  · exact hx
  · exact hy

theorem mapM {f : α → Except ε β} {as : List α} (h : ∀ a ∈ as, Ensures Q (f a)) :
    Ensures (fun bs => ∀ b ∈ bs, Q b) (as.mapM f) := by
  induction as with
  | nil => exact nofun
  | cons a as ih =>
    rw [List.forall_mem_cons] at h
    rw [List.mapM_cons]
    refine h.1.bind fun b hb => (ih h.2).bind fun bs hbs => ?_
    exact List.forall_mem_cons.2 ⟨hb, hbs⟩

theorem foldlM {f : β → α → Except ε β} {as : List α} {b : β} (hb : Q b)
    (h : ∀ b, Q b → ∀ a ∈ as, Ensures Q (f b a)) : Ensures Q (as.foldlM f b) := by
  induction as generalizing b with
  | nil => exact hb
  | cons a as ih =>
    rw [List.foldlM_cons]
    refine (h b hb a (.head _)).bind fun b' hb' => ih hb' fun b hb a ha => ?_
    exact h b hb a (.tail _ ha)

end Ensures

end Rulebook
