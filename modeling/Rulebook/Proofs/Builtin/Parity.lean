import Rulebook.Proofs.Builtin.Positions
import Rulebook.Proofs.Eval.Intervals
import Rulebook.Proofs.Number.Parity

/-!
Even and odd numbers. The remainder after division by two tells all whole numbers apart rightly.
The two functions hold their argument within 64 bits first, and the greatest number of 64 bits is
odd: so all whole numbers from `2 ^ 63` on, which are even, count as odd.
-/

namespace Rulebook

open Builtin

variable {scope : Scope} {operand : Expr} {x : Float} {n : ℤ}

namespace Builtin

theorem call_parity (name : String) (accept : Int → Bool) (h : Number.toInt? x = some n) :
    (parity name accept).call [.number x] =
      .ok (.boolean (accept (held n))) := by
  show (expectInteger name [.number x] 0 >>= _) = _
  rw [expectInteger_of_toInt? rfl h]
  rfl

-- Below the numbers of 64 bits all numbers are even, and so is the least one of 64 bits.
theorem held_emod_two (h : Number.toInt? x = some n) :
    held n % 2 = 0 ↔ 2 ∣ n ∧ n < 2 ^ 63 := by
  have heven (hn : n < minInteger) : 2 ∣ n := by
    refine Number.two_dvd_of_toInt? h ?_
    simp only [minInteger, Number.leadingBit] at *
    omega
  simp only [held, minInteger, maxInteger] at *
  omega

theorem call_even (h : Number.toInt? x = some n) : Registry.builtins.call "even" [.number x] =
    .ok (.boolean (decide (2 ∣ n ∧ n < 2 ^ 63))) := by
  have hfind : Registry.builtins.find? "even" = some (parity "even" fun n => n % 2 == 0) := rfl
  rw [Registry.call, hfind, ← decide_eq_decide.2 (held_emod_two h)]
  exact call_parity "even" _ h

theorem call_odd (h : Number.toInt? x = some n) : Registry.builtins.call "odd" [.number x] =
    .ok (.boolean !decide (2 ∣ n ∧ n < 2 ^ 63)) := by
  have hfind : Registry.builtins.find? "odd" = some (parity "odd" fun n => n % 2 != 0) := rfl
  rw [Registry.call, hfind, ← decide_eq_decide.2 (held_emod_two h)]
  exact call_parity "odd" _ h

theorem call_modulo_two (h : Number.toInt? x = some n) :
    Registry.builtins.call "modulo" [.number x, .number 2] =
      .ok (.number (Number.ofInt (n % 2))) := by
  have hfind : Registry.builtins.find? "modulo" = some ⟨"modulo", .exact 2, true, remainder⟩ := rfl
  have hmodulo : Number.modulo? x 2 = some (Number.ofInt (n % 2)) := by
    have htwo : Number.equal 2 0 = false := by decide
    rw [Number.modulo?, htwo, Number.sub_two_mul_floor h]
    rfl
  have hremainder : remainder [.number x, .number 2] = .ok (.number (Number.ofInt (n % 2))) := by
    simp only [remainder, expectNumber, bind, Except.bind, List.getElem?_cons_zero,
      List.getElem?_cons_succ, hmodulo]
  rw [Registry.call, hfind]
  exact hremainder

end Builtin

theorem equal_ofInt_emod_two (n : ℤ) : Number.equal (Number.ofInt (n % 2)) 0 = decide (2 ∣ n) := by
  obtain h | h := Int.emod_two_eq n
  · rw [h, decide_eq_true (Int.dvd_of_emod_eq_zero h)]
    decide
  · rw [h, decide_eq_false (by omega)]
    decide

-- The calls tell divisibility by two of the whole number `n`, but for `even` and `odd` from
-- `2 ^ 63` on, where they take every number for an odd one.
theorem eval_parity (h : Number.toInt? x = some n)
    (hoperand : eval .builtins scope operand = .ok (.number x)) :
    let even := Expr.call "even" [operand]
    let odd := Expr.call "odd" [operand]
    let rest := Expr.call "modulo" [operand, .literal (.number 2)]
    eval .builtins scope even = .ok (.boolean (decide (2 ∣ n ∧ n < 2 ^ 63))) ∧
      eval .builtins scope odd = .ok (.boolean !decide (2 ∣ n ∧ n < 2 ^ 63)) ∧
      eval .builtins scope rest = .ok (.number (Number.ofInt (n % 2))) ∧
      eval .builtins scope (.binary .equal rest (.literal (.number 0))) =
        .ok (.boolean (decide (2 ∣ n))) ∧
      (eval .builtins scope even =
          eval .builtins scope (.binary .equal rest (.literal (.number 0))) ↔ n < 2 ^ 63) := by
  intro even odd rest
  have htwo : eval .builtins scope (.literal (.number 2)) = .ok (.number 2) := by
    rw [eval]
    rfl
  have hzero : eval .builtins scope (.literal (.number 0)) = .ok (.number 0) := by
    rw [eval]
    rfl
  have hargument : evalItems .builtins scope [operand] = .ok [.number x] := by
    rw [evalItems, hoperand]
    rfl
  have harguments : evalItems .builtins scope [operand, .literal (.number 2)] =
      .ok [.number x, .number 2] := by
    rw [evalItems, hoperand, evalItems, htwo]
    rfl
  have heven : eval .builtins scope even = .ok (.boolean (decide (2 ∣ n ∧ n < 2 ^ 63))) := by
    rw [eval, hargument]
    exact call_even h
  have hodd : eval .builtins scope odd = .ok (.boolean !decide (2 ∣ n ∧ n < 2 ^ 63)) := by
    rw [eval, hargument]
    exact call_odd h
  have hrest : eval .builtins scope rest = .ok (.number (Number.ofInt (n % 2))) := by
    rw [eval, harguments]
    exact call_modulo_two h
  have hdivides : eval .builtins scope (.binary .equal rest (.literal (.number 0))) =
      .ok (.boolean (decide (2 ∣ n))) := by
    rw [eval_binary rfl hrest hzero, ← equal_ofInt_emod_two]
    rfl
  refine ⟨heven, hodd, hrest, hdivides, ?_⟩
  rw [heven, hdivides, Except.ok.injEq, Value.boolean.injEq, decide_eq_decide, and_iff_left_iff_imp]
  constructor
  · intro hlt
    by_contra hge
    have hdvd : 2 ∣ n := Number.two_dvd_of_toInt? h (by simp only [Number.leadingBit]; omega)
    exact hge (hlt hdvd)
  · exact fun hlt _ => hlt

-- The greatest number below `2 ^ 63` and the number `2 ^ 63`.
theorem eval_parity_limit :
    let below : Float := 9223372036854774784
    let limit : Float := 9223372036854775808
    let scope : Scope := [[("x", .number below), ("y", .number limit)]]
    Number.toInt? below = some 9223372036854774784 ∧
      Number.toInt? limit = some 9223372036854775808 ∧
      eval .builtins scope (.call "even" [.reference "x"]) = .ok (.boolean true) ∧
      eval .builtins scope (.call "even" [.reference "y"]) = .ok (.boolean false) ∧
      eval .builtins scope (.call "odd" [.reference "y"]) = .ok (.boolean true) ∧
      eval .builtins scope (.binary .equal
        (.call "modulo" [.reference "y", .literal (.number 2)]) (.literal (.number 0))) =
          .ok (.boolean true) := by
  intro below limit scope
  have hbelow : Number.toInt? below = some 9223372036854774784 := by decide +kernel
  have hlimit : Number.toInt? limit = some 9223372036854775808 := by decide +kernel
  have hx : eval .builtins scope (.reference "x") = .ok (.number below) := rfl
  have hy : eval .builtins scope (.reference "y") = .ok (.number limit) := rfl
  have hfirst := eval_parity hbelow hx
  have hsecond := eval_parity hlimit hy
  exact ⟨hbelow, hlimit, hfirst.1, hsecond.1, hsecond.2.1, hsecond.2.2.2.1⟩

end Rulebook
