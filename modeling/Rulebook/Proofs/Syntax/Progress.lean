import Rulebook.Proofs.Syntax.CombinedReading
import Rulebook.Proofs.Syntax.Descent

/-!
Progress of the grammar. From each place of a token list on each rule has an answer, which lies
between that place and the end. No cycle of calls and no turn of a repetition goes without a token.
-/

namespace Rulebook.Syntax

variable {α : Type} {c : Bool}

namespace Answer

variable {tokens rest : List Token} {pos : ℕ}

-- The tokens left start at a place from `pos` on, and behind it if one has to be taken.
def Between (takes : Bool) (tokens : List Token) (pos : ℕ) (a : Answer α) : Prop :=
  match a with
  | ok _ rest => ∃ pos', rest = tokens.drop pos' ∧ pos ≤ pos' ∧ pos' ≤ tokens.length ∧
      (takes = true → pos < pos')
  | fail rest => ∃ pos', rest = tokens.drop pos' ∧ pos ≤ pos' ∧ pos' ≤ tokens.length

theorem exists_drop_of_suffix (hpos : pos ≤ tokens.length) (h : rest <:+ tokens.drop pos) :
    ∃ pos', rest = tokens.drop pos' ∧ pos ≤ pos' ∧ pos' ≤ tokens.length := by
  obtain ⟨front, hfront⟩ := h
  refine ⟨pos + front.length, ?_, by omega, ?_⟩
  · rw [← List.drop_drop, ← hfront, List.drop_left]
  · have hlength := congrArg List.length hfront
    rw [List.length_append, List.length_drop] at hlength
    omega

theorem Within.between {a : Answer α} (hpos : pos ≤ tokens.length)
    (h : a.Within c (tokens.drop pos)) : a.Between c tokens pos := by
  cases a with
  | fail rest => exact exists_drop_of_suffix hpos h
  | ok value rest =>
    obtain ⟨pos', rfl, hle, hlength⟩ := exists_drop_of_suffix hpos h.1
    refine ⟨pos', rfl, hle, hlength, fun hc => ?_⟩
    have hlt := h.2 hc
    rw [List.length_drop, List.length_drop] at hlt
    omega

end Answer

open Nonterminal (Output)

-- With enough calls and turns allowed the parser answers so from the place `pos` on, and the answer
-- lies between that place and the end.
def Parser.Settles (p : Parser Output c α) (tokens : List Token) (pos : ℕ) (a : Answer α) : Prop :=
  (∀ n, grammar.limit grammar.height (tokens.drop pos) < n →
    grammar.parse n p (tokens.drop pos) = some a) ∧ a.Between c tokens pos

variable {tokens : List Token} {pos : ℕ}

theorem settles {p : Parser Output c α} {a : Answer α} (hpos : pos ≤ tokens.length)
    (h : a = grammar.answer p (tokens.drop pos)) : p.Settles tokens pos a := by
  subst h
  exact ⟨fun n hn => Grammar.parse_eq Grammar.startsBelow_height hn,
    Grammar.answer_within.between hpos⟩

-- Every parser of the grammar, hence every rule, settles; the rules that decide by one token give
-- those answers. Every cycle takes a token, and so does every turn of a repetition.
theorem grammar_settles (tokens : List Token) (pos : ℕ) (hpos : pos ≤ tokens.length) :
    let ts := tokens.drop pos
    (∀ {c : Bool} {α : Type} (p : Parser Output c α), ∃ a, p.Settles tokens pos a) ∧
      (∀ k : Level, (Parser.rule (.form k)).Settles tokens pos (k.parse ts).answer) ∧
      (Parser.rule .completeExpression).Settles tokens pos (.ofComplete (completeExpression ts)) ∧
      (Parser.rule .test).Settles tokens pos (cellTest ts).answer ∧
      (Parser.rule .tests).Settles tokens pos (cellTests ts).answer ∧
      (Parser.rule .cell).Settles tokens pos (.ofComplete (cell ts)) ∧
      (∀ r us vs, Relation.TransGen grammar.Leads (.rule r us) (.rule r vs) →
        vs.length < us.length) ∧
      ∀ (s : Site Output) {α : Type} (q : Parser Output false (List α)) us,
        grammar.Leads s (.turn q us) → us.length < s.tokens.length :=
  ⟨fun _ => ⟨_, settles hpos rfl⟩,
    fun k => settles hpos (answer_form k _), settles hpos answer_completeExpression,
    settles hpos answer_cellTest, settles hpos answer_cellTests, settles hpos answer_cell,
    fun _ _ _ => Grammar.lt_of_transGen_leads, fun _ _ _ _ => Grammar.Leads.turn_lt⟩

-- `not x +`: the name is read, and the sum lacks an operand at the end.
theorem grammar_settles_unfinished :
    let tokens : List Token := [.keyword .not, .identifier "x", .operator .plus]
    1 ≤ tokens.length ∧
      (Parser.rule (.form .primary)).Settles tokens 1 (.ok (.reference "x") [.operator .plus]) ∧
      (Parser.rule (.form .whole)).Settles tokens 1 (.fail []) := by
  intro tokens
  have h := grammar_settles tokens 1 (by decide)
  have hprimary : (Level.primary.parse (tokens.drop 1)).answer =
      .ok (.reference "x") [.operator .plus] := by
    cbv
  have hwhole : (Level.whole.parse (tokens.drop 1)).answer = .fail [] := by
    cbv
  exact ⟨by decide, hprimary ▸ h.2.1 .primary, hwhole ▸ h.2.1 .whole⟩

end Rulebook.Syntax
