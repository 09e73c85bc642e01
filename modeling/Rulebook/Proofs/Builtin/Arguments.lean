import Rulebook.Builtin.Arguments
import Rulebook.Proofs.Eval.Operators

/-!
Reading arguments that are alike: both calls fail, or they read the same text or whole number, or
numbers and lists that are alike.
-/

namespace Rulebook

open Number (Zeros)
open Value (Alike)

variable {zeros : Zeros}

-- Arguments that are alike give results that are alike.
def Function.Impartial (zeros : Zeros) (f : Function) : Prop :=
  ∀ as bs, List.Forall₂ (Alike zeros) as bs → Both (Alike zeros) (f.body as) (f.body bs)

theorem Function.Impartial.call {f : Function} (hf : f.Impartial zeros) {as bs : List Value}
    (h : List.Forall₂ (Alike zeros) as bs) : Both (Alike zeros) (f.call as) (f.call bs) := by
  have hnull : as.any Value.isNull = bs.any Value.isNull :=
    any_eq_of_forall₂ h fun _ _ hv => hv.isNull_eq
  simp only [Function.call, h.length_eq, hnull]
  exact .ite .failed (.ite (.given .null) (hf as bs h))

namespace Builtin

variable {f f' : String} {as bs : List Value} {i : Nat}

theorem expectString_alike (h : List.Forall₂ (Alike zeros) as bs) :
    Both Eq (expectString f as i) (expectString f bs i) := by
  have hi := rel_getElem? h i
  simp only [expectString, wrongType, invalid]
  generalize as[i]? = a at hi ⊢
  generalize bs[i]? = b at hi ⊢
  cases hi with
  | none => exact .failed
  | some hv =>
    cases hv
    case string s => exact .given rfl
    all_goals exact .failed

theorem expectNumber_alike (h : List.Forall₂ (Alike zeros) as bs) :
    Both (Number.Alike zeros) (expectNumber f as i) (expectNumber f bs i) := by
  have hi := rel_getElem? h i
  simp only [expectNumber, wrongType, invalid]
  generalize as[i]? = a at hi ⊢
  generalize bs[i]? = b at hi ⊢
  cases hi with
  | none => exact .failed
  | some hv =>
    cases hv
    case number hx => exact .given hx
    all_goals exact .failed

theorem expectList_alike (h : List.Forall₂ (Alike zeros) as bs) :
    Both (List.Forall₂ (Alike zeros)) (expectList f as i) (expectList f bs i) := by
  have hi := rel_getElem? h i
  simp only [expectList, wrongType, invalid]
  generalize as[i]? = a at hi ⊢
  generalize bs[i]? = b at hi ⊢
  cases hi with
  | none => exact .failed
  | some hv =>
    cases hv
    case list h => exact .given h
    all_goals exact .failed

theorem expectInteger_alike (h : List.Forall₂ (Alike zeros) as bs) :
    Both Eq (expectInteger f as i) (expectInteger f bs i) := by
  refine (expectNumber_alike h).bind fun x y hx => ?_
  rw [hx.isWhole_eq, hx.clampToInt_eq]
  exact .ite (.given rfl) .failed

theorem listOrItems_alike (h : List.Forall₂ (Alike zeros) as bs) :
    List.Forall₂ (Alike zeros) (listOrItems as) (listOrItems bs) := by
  have hitems := h
  cases h with
  | nil => exact .nil
  | cons hv h =>
    cases h with
    | cons hw h => cases hv <;> exact hitems
    | nil =>
      cases hv
      case list h => exact h
      all_goals exact hitems

theorem partEnd_alike (h : List.Forall₂ (Alike zeros) as bs) (start whole : Nat) :
    Both Eq (partEnd f as i start whole) (partEnd f bs i start whole) := by
  have hi := rel_getElem? h i
  simp only [partEnd]
  generalize as[i]? = a at hi ⊢
  generalize bs[i]? = b at hi ⊢
  cases hi with
  | none => exact .given rfl
  | some hv =>
    refine (expectInteger_alike h).bind fun | _, _, rfl => ?_
    exact .ite .failed (.given rfl)

theorem selectPart_alike {α β : Type} {R : α → β → Prop} {items : List α} {items' : List β}
    (h : List.Forall₂ (Alike zeros) as bs) (hitems : List.Forall₂ R items items') :
    Both (List.Forall₂ R) (selectPart f as items) (selectPart f bs items') := by
  refine (expectInteger_alike h).bind fun | position, _, rfl => ?_
  rw [hitems.length_eq]
  refine Both.same.bind fun | start, _, rfl => ?_
  refine (partEnd_alike h _ _).bind fun | finish, _, rfl => .given ?_
  exact List.forall₂_drop _ (List.forall₂_take _ hitems)

end Builtin

end Rulebook
