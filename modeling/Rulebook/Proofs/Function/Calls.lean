import Rulebook.Eval.Source
import Rulebook.Proofs.Syntax.Calls
import Rulebook.Proofs.Value.Within

/-!
Calls of registered functions. A registry takes the names that are words of the language, keywords
among them, and the text of a call is read as the call for all of them but the keywords.
-/

namespace Rulebook

open Syntax

variable {c : Char} {name : String} {r r' : Registry} {f : Function} {scope : Scope}
  {texts : List String} {es : List Expr}

theorem toNat_lt_of_isAlpha (h : c.isAlpha = true) : c.toNat < 128 := by
  simp only [Char.isAlpha, Char.isUpper, Char.isLower, Bool.or_eq_true, Bool.and_eq_true,
    decide_eq_true_eq] at h
  obtain ⟨-, h⟩ | ⟨-, h⟩ := h
  · exact Nat.lt_of_le_of_lt (m := 90) h (by decide)
  · exact Nat.lt_of_le_of_lt (m := 122) h (by decide)

theorem toNat_lt_of_isDigit (h : c.isDigit = true) : c.toNat < 128 := by
  rw [Char.isDigit_iff_toNat] at h
  exact Nat.lt_of_le_of_lt h.2 (by decide)

theorem isAlphabetic_of_isAlpha (h : c.isAlpha = true) : Unicode.isAlphabetic c = true := by
  rw [Unicode.isAlphabetic, if_pos (toNat_lt_of_isAlpha h), h]

theorem isAlphanumeric_of_isAlphanum (h : c.isAlphanum = true) :
    Unicode.isAlphanumeric c = true := by
  rw [Char.isAlphanum, Bool.or_eq_true] at h
  rw [Unicode.isAlphanumeric, Bool.or_eq_true]
  refine h.imp isAlphabetic_of_isAlpha fun hdigit => ?_
  rw [Unicode.isNumeric, if_pos (toNat_lt_of_isDigit hdigit), hdigit]

theorem Function.isWord_of_nameFault? (h : nameFault? name = none) : isWord name.toList = true := by
  rw [nameFault?] at h
  split at h
  case h_1 => cases h
  case h_2 c cs hname =>
    split at h
    case isTrue => cases h
    case isFalse hstart =>
      split at h
      case isTrue => cases h
      case isFalse hrest =>
        simp only [Bool.not_eq_true', Bool.not_eq_false, List.all_eq_true, Bool.or_eq_true]
          at hstart hrest
        rw [hname, isWord_cons_iff, startsName, Bool.or_eq_true]
        refine ⟨hstart.imp_left isAlphabetic_of_isAlpha, fun d hd => ?_⟩
        rw [continuesName, Bool.or_eq_true]
        exact (hrest d hd).imp_left isAlphanumeric_of_isAlphanum

theorem Registry.of_register (h : r.register f = .ok r') :
    Function.nameFault? f.name = none ∧ r'.find? f.name = some f := by
  rw [register] at h
  split at h
  case h_1 => cases h
  case h_2 hfault =>
    split at h
    case isTrue => cases h
    case isFalse hnew =>
      cases h
      rw [contains, Bool.not_eq_true, Option.isSome_eq_false_iff, Option.isNone_iff_eq_none] at hnew
      refine ⟨(Option.or_eq_none_iff.1 hfault).1, ?_⟩
      rw [find?, List.find?_append]
      rw [find?] at hnew
      rw [hnew]
      simp

theorem length_evalItems (r : Registry) (scope : Scope) (es : List Expr) :
    Ensures (·.length = es.length) (evalItems r scope es) := by
  induction es with
  | nil => exact rfl
  | cons e es ih =>
    exact Ensures.after fun v => ih.bind fun vs hvs => congrArg Nat.succ hvs

-- A call of a registered function with as many arguments as it takes.
theorem Registry.eval_call_of_register (h : r.register f = .ok r')
    (harity : f.arity.accepts es.length = true) :
    eval r' scope (.call f.name es) = (do
      let values ← evalItems r' scope es
      if f.propagatesNull && values.any Value.isNull then .ok .null else f.body values) := by
  rw [eval]
  refine (length_evalItems r' scope es).bind_congr fun values hvalues => ?_
  rw [call, (of_register h).2]
  simp only [Function.call, hvalues, harity]
  simp

-- The arguments are the texts of expressions, with no line comment at the end. The text of a call
-- calls a registered function with them just in case its name is no keyword.
theorem Registry.callText_dispatches_iff (h : r.register f = .ok r')
    (hargs : List.Forall₂ Argument texts es) (harity : f.arity.accepts texts.length = true) :
    (parseExpression (callText f.name texts) = .ok (.call f.name es) ↔
      Keyword.ofText? f.name = none) ∧
    (Keyword.ofText? f.name = none → ∀ context,
      evaluateText r' (callText f.name texts) context = Except.mapError .eval (do
        let values ← evalItems r' [context] es
        if f.propagatesNull && values.any Value.isNull then .ok .null else f.body values)) := by
  have hname := Function.isWord_of_nameFault? (of_register h).1
  refine ⟨parse_callText_iff hname hargs, fun hkeyword context => ?_⟩
  rw [hargs.length_eq] at harity
  rw [evaluateText, parse_callText hname hkeyword hargs, ← eval_call_of_register h harity]
  rfl

-- Comments and a parenthesis in a string, in arguments of a function that gives the first of them.
theorem Registry.callText_dispatches_iff_first :
    ∃ r' e₁ e₂,
      Registry.empty.register ⟨"first_of", .range 1 2, true, fun vs => .ok (vs.headD .null)⟩ =
        .ok r' ∧
      parseExpression "x // half\n / 2" = .ok e₁ ∧ parseExpression "\")\" /* last */" = .ok e₂ ∧
      parseExpression "first_of(x // half\n / 2,\")\" /* last */)" =
        .ok (.call "first_of" [e₁, e₂]) := by
  have hregister : Registry.empty.register
      ⟨"first_of", .range 1 2, true, fun vs => .ok (vs.headD .null)⟩ = .ok _ := rfl
  have hfirst : (parseExpression "x // half\n / 2").toOption.isSome = true := by decide +kernel
  have hlast : (parseExpression "\")\" /* last */").toOption.isSome = true := by decide +kernel
  cases h₁ : parseExpression "x // half\n / 2" with
  | error e => rw [h₁] at hfirst; cases hfirst
  | ok e₁ =>
    cases h₂ : parseExpression "\")\" /* last */" with
    | error e => rw [h₂] at hlast; cases hlast
    | ok e₂ =>
      have hargs : List.Forall₂ Argument ["x // half\n / 2", "\")\" /* last */"] [e₁, e₂] :=
        .cons ⟨h₁, by decide +kernel⟩ (.cons ⟨h₂, by decide +kernel⟩ .nil)
      have hcall := (callText_dispatches_iff hregister hargs rfl).1.2 (by decide)
      exact ⟨_, e₁, e₂, hregister, rfl, rfl, hcall⟩

-- The registry takes a keyword for a name, but the grammar does not.
example : (Registry.empty.register
      ⟨"every", .exact 0, false, fun _ => .ok .null⟩).toOption.isSome = true ∧
    (parseExpression (callText "every" [])).toOption.isSome = false := by
  decide +kernel

end Rulebook
