import Rulebook.Proofs.Syntax.RoundTrip
import Rulebook.Proofs.Syntax.Soundness
import Rulebook.Proofs.Syntax.Writing

/-!
The expressions that texts can have are the canonical ones, and the rendering of each is a text's
token list that is read back as it.
-/

namespace Rulebook.Syntax

variable {e : Expr}

theorem completeExpression_of_isCanonical (h : e.isCanonical = true) :
    completeExpression e.render = .ok e := by
  have hreads : (expression (e.render ++ [])).Reads e [] := (reparses h).expression trivial
  rw [List.append_nil] at hreads
  obtain ⟨hlt, heq⟩ := hreads
  rw [completeExpression, heq]
  rfl

theorem exists_text_render (h : e.isCanonical = true) :
    ∃ text, textTokens text = .ok e.render :=
  exists_textTokens_iff.2 (Expr.lexical_render h)

theorem isCanonical_iff_read_and_render_read :
    (∀ e : Expr, (∃ text ts, textTokens text = .ok ts ∧ completeExpression ts = .ok e) ↔
      e.isCanonical = true) ∧
    ∀ e : Expr, e.isCanonical = true →
      (∃ text, textTokens text = .ok e.render) ∧ completeExpression e.render = .ok e := by
  refine ⟨fun e => ⟨?_, fun h => ?_⟩, fun e h => ?_⟩
  · rintro ⟨text, ts, htext, hread⟩
    exact isCanonical_of_completeExpression (exists_textTokens_iff.1 ⟨text, htext⟩) hread
  · obtain ⟨text, htext⟩ := exists_text_render h
    exact ⟨text, e.render, htext, completeExpression_of_isCanonical h⟩
  · exact ⟨exists_text_render h, completeExpression_of_isCanonical h⟩

-- `(a + b) * not c` with the last operand in parentheses too.
theorem isCanonical_iff_read_and_render_read_product :
    completeExpression [.delimiter .openParen, .identifier "a", .operator .plus, .identifier "b",
      .delimiter .closeParen, .operator .times, .delimiter .openParen, .keyword .not,
      .identifier "c", .delimiter .closeParen] =
    .ok (.binary .multiply (.binary .add (.reference "a") (.reference "b"))
      (.unary .not (.reference "c"))) :=
  (isCanonical_iff_read_and_render_read.2 (.binary .multiply
    (.binary .add (.reference "a") (.reference "b")) (.unary .not (.reference "c")))
    (by decide +kernel)).2

end Rulebook.Syntax
