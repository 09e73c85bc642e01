import Rulebook.Proofs.Decision.RuleOrder
import Rulebook.Proofs.Engine.ContextEquality

/-!
An engine that keeps nothing, asked for one table with its rules in two orders. Under UNIQUE and ANY
it fails for one reason or gives equal outputs; where the output of the one rule that matches holds
an undefined number, it is the same output, but no equal one.
-/

namespace Rulebook

namespace Engine

variable {g : Engine} {t : Table} {c : Context} {rules : List Rule}

-- No context holds a name twice, neither the caller's nor those that a function gives.
theorem evaluate_reordered (hsources : g.sources.cache = none) (hresults : g.results.cache = none)
    (hfunctions : ∀ f ∈ g.registry.functions, f.Preserves fun c => c.keys.Nodup)
    (hc : Value.UniqueKeys (.context c)) (hpolicy : t.policy = .unique ∨ t.policy = .any)
    (h : t.rules.Perm rules) :
    ∃ t', Table.build t.id t.policy t.inputs t.outputs rules = .ok t' ∧
      EndAlike Decision.Rearranged (g.evaluate t c).1 (g.evaluate t' c).1 := by
  have hdecision (t : Table) : (g.evaluate t c).1 = t.decision g.registry c := by
    rw [fst_evaluate (Sources.faithful_of_off hsources), consult_of_off hresults]
  refine ⟨t.reordered h, t.build_reordered h, ?_⟩
  rw [hdecision, hdecision]
  exact Table.decision_reordered hfunctions hc hpolicy h

-- Two rules that agree, although the texts of their outputs do not.
theorem evaluate_reordered_agreeing :
    let g := ofConfig .uncached .builtins
    let positive : Rule := ⟨"p", ["> -1"], ["\x7bu: 1, v: 0\x7d"]⟩
    let small : Rule := ⟨"s", ["< 1"], ["\x7bv: -0, u: 1\x7d"]⟩
    let t : Table := ⟨"t", .any, [.input "a"], [.output "o"], [positive, small], by decide⟩
    (∃ t', Table.build "t" .any [.input "a"] [.output "o"] [small, positive] = .ok t' ∧
      EndAlike Decision.Rearranged (g.evaluate t ascending).1 (g.evaluate t' ascending).1) ∧
    (g.evaluate t ascending).1.toOption.map (·.rules) = some ["p", "s"] := by
  intro g positive small t
  have hc : Value.UniqueKeys (.context ascending) := by
    simp [ascending, Context.keys, Value.UniqueKeys, Value.UniqueInEntries]
  refine ⟨?_, by decide +kernel⟩
  exact evaluate_reordered rfl rfl (fun f hf => Builtin.functions_preserve f hf) hc (.inr rfl)
    (t := t) (.swap ..)

-- The rule that matches gives a difference of infinite numbers; the other one does not apply.
theorem not_equal_of_reordered :
    let g := ofConfig .uncached .builtins
    let difference : Rule := ⟨"d", ["> 1"], ["x * x - x * x"]⟩
    let other : Rule := ⟨"e", ["< 1"], ["1"]⟩
    let t : Table := ⟨"t", .unique, [.input "x"], [.output "o"], [difference, other], by decide⟩
    let t' : Table := ⟨"t", .unique, [.input "x"], [.output "o"], [other, difference], by decide⟩
    t.rules.Perm t'.rules ∧
      ¬EndAlike (fun d d' => d.rules.Perm d'.rules ∧ (d.output == d'.output) = true)
        (g.evaluate t large).1 (g.evaluate t' large).1 := by
  intro g difference other t t'
  refine ⟨.swap .., fun h => absurd h.both ?_⟩
  decide +kernel

end Engine

end Rulebook
