import Rulebook.Proofs.Syntax.CanonicalForms

/-!
The cells that texts can have, and their rendering: a comparison is its operator before the
expression, and a test without operator goes into parentheses unless it is a literal or an interval.
A rendering starts with neither `not` nor a lone minus sign if these are not meant.
-/

namespace Rulebook

open Syntax

-- The operators that can stand before a test. Membership is none.
def BinaryOp.leadsTest (op : BinaryOp) : Bool :=
  op.level == .comparison && op != .isIn

def Expr.standsBare : Expr → Bool
  | literal _ | range .. => true
  | _ => false

namespace CellTest

def isCanonical : CellTest → Bool
  | comparison op e => op.leadsTest && e.isCanonical
  | expression e => e.isCanonical

def render : CellTest → List Token
  | comparison op e => op.token :: e.render
  | expression e =>
    if e.standsBare then e.render
    else .delimiter .openParen :: e.render ++ [.delimiter .closeParen]

end CellTest

namespace Cell

def isCanonical : Cell → Bool
  | any => true
  | tests _ alternatives => !alternatives.isEmpty && alternatives.all CellTest.isCanonical

-- Each after a comma.
def renderMoreTests : List CellTest → List Token
  | [] => []
  | test :: others => .delimiter .comma :: test.render ++ renderMoreTests others

def renderTests : List CellTest → List Token
  | [] => []
  | test :: others => test.render ++ renderMoreTests others

def render : Cell → List Token
  | any => [.operator .minus]
  | tests false alternatives => renderTests alternatives
  | tests true alternatives =>
    .keyword .not :: .delimiter .openParen :: renderTests alternatives ++ [.delimiter .closeParen]

end Cell

namespace Syntax

variable {test : CellTest} {alternatives : List CellTest} {c : Cell} {e : Expr} {op : BinaryOp}
  {t : Token} {ts rest : List Token}

theorem leadsTest_iff :
    op.leadsTest = true ↔ ∃ o, op.token = .operator o ∧ comparisonOp? (.operator o) = some op := by
  cases op <;> simp [BinaryOp.leadsTest, BinaryOp.level, BinaryOp.token, comparisonOp?]

-- What a cell reads at the place of a test.

theorem cellTest_comparison (hop : op.leadsTest = true) (h : (expression ts).Reads e rest) :
    (cellTest (op.token :: ts)).Reads (.comparison op e) rest := by
  obtain ⟨o, htoken, hcomparison⟩ := leadsTest_iff.1 hop
  rw [htoken, cellTest, hcomparison]
  exact h.map.widen

theorem cellTest_expression (hfirst : ∀ o rest, ts = .operator o :: rest → o = .minus)
    (h : (expression ts).Reads e rest) : (cellTest ts).Reads (.expression e) rest := by
  unfold cellTest
  split
  · obtain rfl := hfirst _ _ rfl
    exact h.map
  · exact h.map

theorem lowerToken_ne_operator {included : Bool} {o : Operator} :
    lowerToken included ≠ .operator o := by
  cases included <;> nofun

theorem head_of_standsBare (h : e.standsBare = true) {o : Operator}
    (hrender : e.render ++ rest = .operator o :: ts) : o = .minus := by
  cases e with
  | literal l =>
    rw [Expr.render] at hrender
    cases l with
    | number x =>
      rw [Literal.render] at hrender
      split at hrender
      · cases hrender; rfl
      · cases hrender
    | string | boolean | null => cases hrender
  | range l u i j =>
    rw [Expr.render] at hrender
    exact absurd (List.cons.inj hrender).1 lowerToken_ne_operator
  | _ => cases h

theorem reads_test (h : test.isCanonical = true) (hs : Stops .whole rest) :
    (cellTest (test.render ++ rest)).Reads test rest := by
  cases test with
  | comparison op e =>
    rw [CellTest.isCanonical, Bool.and_eq_true] at h
    exact cellTest_comparison h.1 ((reparses h.2).expression hs)
  | expression e =>
    by_cases hbare : e.standsBare = true
    case pos =>
      rw [CellTest.render, if_pos hbare]
      exact cellTest_expression (fun o rest => head_of_standsBare hbare)
        ((reparses h).expression hs)
    case neg =>
      rw [CellTest.render, if_neg hbare]
      refine cellTest_expression (fun o rest hparen => by cases hparen) ?_
      exact parse_of_rank_le (k := .whole) (j := .primary) (by decide) (reparses h).parentheses hs

theorem stops_moreTests (hs : Stops .whole rest) :
    Stops .whole (Cell.renderMoreTests alternatives ++ rest) := by
  cases alternatives with
  | nil => exact hs
  | cons test alternatives => exact stops_of_joins_none rfl

theorem reads_moreTests (h : ∀ test ∈ alternatives, test.isCanonical = true)
    (hs : Stops .whole rest) (hcomma : rest.head? ≠ some (.delimiter .comma)) :
    (commaTests (Cell.renderMoreTests alternatives ++ rest)).Reads alternatives rest := by
  induction alternatives with
  | nil =>
    rw [Cell.renderMoreTests, List.nil_append, commaTests.eq_def]
    split
    · exact absurd rfl hcomma
    · exact ⟨_, rfl⟩
  | cons test alternatives ih =>
    obtain ⟨htest, halternatives⟩ := List.forall_mem_cons.1 h
    rw [Cell.renderMoreTests, List.append_assoc, List.cons_append, commaTests]
    refine (reads_test htest (stops_moreTests hs)).andThen fun _ => ?_
    exact (ih halternatives).map.widen

theorem reads_tests (hne : alternatives ≠ []) (h : ∀ test ∈ alternatives, test.isCanonical = true)
    (hs : Stops .whole rest) (hcomma : rest.head? ≠ some (.delimiter .comma)) :
    (cellTests (Cell.renderTests alternatives ++ rest)).Reads alternatives rest := by
  cases alternatives with
  | nil => exact absurd rfl hne
  | cons test alternatives =>
    obtain ⟨htest, halternatives⟩ := List.forall_mem_cons.1 h
    rw [Cell.renderTests, List.append_assoc, cellTests]
    refine (reads_test htest (stops_moreTests hs)).andThen fun _ => ?_
    exact (reads_moreTests halternatives hs hcomma).map.widen

theorem complete_of_reads {α : Type} {n : Nat} {r : Reply α n} {value : α}
    (h : r.Reads value []) : complete r = .ok value := by
  obtain ⟨_, rfl⟩ := h
  rfl

theorem render_start (h : test.isCanonical = true) :
    ∃ t rest, test.render = t :: rest ∧ t ≠ .keyword .not ∧ (rest = [] → t ≠ .operator .minus) := by
  cases test with
  | comparison op e =>
    rw [CellTest.isCanonical, Bool.and_eq_true] at h
    obtain ⟨o, htoken, hcomparison⟩ := leadsTest_iff.1 h.1
    refine ⟨op.token, e.render, rfl, by simp [htoken], fun _ hminus => ?_⟩
    cases htoken.symm.trans hminus
    cases hcomparison
  | expression e =>
    rw [CellTest.render]
    split
    case isFalse => exact ⟨_, _, rfl, by simp, by simp⟩
    case isTrue hbare =>
      cases e with
      | literal l =>
        rw [Expr.render]
        cases l with
        | number x =>
          rw [Literal.render]
          split <;> exact ⟨_, _, rfl, by simp, by simp⟩
        | string s => exact ⟨_, _, rfl, by simp, by simp⟩
        | boolean b => exact ⟨_, _, rfl, by cases b <;> simp, by simp⟩
        | null => exact ⟨_, _, rfl, by simp, by simp⟩
      | range l u i j =>
        rw [Expr.render]
        exact ⟨_, _, rfl, by cases i <;> simp [lowerToken],
          by cases i <;> simp [lowerToken]⟩
      | _ => cases hbare

theorem anyCell_of_start (h : rest = [] → t ≠ .operator .minus) :
    ∃ failure, anyCell (t :: rest) = .error failure := by
  unfold anyCell
  split
  · rename_i heq
    cases heq
    exact absurd rfl (h rfl)
  · exact ⟨_, rfl⟩
  · exact ⟨_, rfl⟩

theorem negatedCell_of_start (h : t ≠ .keyword .not) :
    ∃ failure, negatedCell (t :: rest) = .error failure := by
  unfold negatedCell
  split
  · rename_i heq
    cases heq
    exact absurd rfl h
  · rename_i heq
    cases heq
    exact absurd rfl h
  · exact ⟨_, rfl⟩

theorem cell_of_orElse (h : orElse (orElse (anyCell ts) (negatedCell ts)) (plainCell ts) = .ok c) :
    cell ts = .ok c := by
  rw [cell, h]

theorem cell_of_plainCell (hne : alternatives ≠ [])
    (h : ∀ test ∈ alternatives, test.isCanonical = true)
    (hplain : plainCell (Cell.renderTests alternatives) = .ok c) :
    cell (Cell.renderTests alternatives) = .ok c := by
  obtain ⟨test, others, rfl⟩ := List.exists_cons_of_ne_nil hne
  obtain ⟨t, rest, hrender, hnot, hminus⟩ := render_start (List.forall_mem_cons.1 h).1
  have htokens :
      Cell.renderTests (test :: others) = t :: (rest ++ Cell.renderMoreTests others) := by
    rw [Cell.renderTests, hrender, List.cons_append]
  rw [htokens] at hplain ⊢
  obtain ⟨_, hany⟩ := anyCell_of_start fun hnil => hminus (List.append_eq_nil_iff.1 hnil).1
  obtain ⟨_, hnegated⟩ := negatedCell_of_start hnot
  exact cell_of_orElse (by rw [hany, hnegated, hplain]; rfl)

theorem cell_render (h : c.isCanonical = true) : cell c.render = .ok c := by
  cases c with
  | any => rfl
  | tests negated alternatives =>
    rw [Cell.isCanonical, Bool.and_eq_true, Bool.not_eq_true', List.isEmpty_eq_false_iff,
      List.all_eq_true] at h
    obtain ⟨hne, halternatives⟩ := h
    cases negated with
    | false =>
      have hreads : (cellTests (Cell.renderTests alternatives ++ [])).Reads alternatives [] :=
        reads_tests hne halternatives trivial nofun
      rw [List.append_nil] at hreads
      exact cell_of_plainCell hne halternatives (complete_of_reads hreads.map)
    | true =>
      have hreads : (cellTests (Cell.renderTests alternatives ++ [.delimiter .closeParen])).Reads
          alternatives [.delimiter .closeParen] :=
        reads_tests hne halternatives (stops_of_joins_none rfl) nofun
      have hnegated : negatedCell (Cell.tests true alternatives).render =
          .ok (.tests true alternatives) :=
        complete_of_reads (hreads.andThen fun _ => delimiter_reads.map.widen)
      exact cell_of_orElse (by rw [hnegated]; rfl)

-- The tokens of a rendering are those of a text.

theorem lexical_renderTest (h : test.isCanonical = true) : Lexical test.render := by
  cases test with
  | comparison op e =>
    rw [CellTest.isCanonical, Bool.and_eq_true] at h
    exact .cons op.isLexical_token (Expr.lexical_render h.2)
  | expression e =>
    rw [CellTest.render]
    split
    · exact Expr.lexical_render h
    · exact .append (.cons rfl (Expr.lexical_render h)) (.cons rfl .nil)

theorem lexical_renderMoreTests (h : ∀ test ∈ alternatives, test.isCanonical = true) :
    Lexical (Cell.renderMoreTests alternatives) := by
  induction alternatives with
  | nil => exact .nil
  | cons test alternatives ih =>
    obtain ⟨htest, halternatives⟩ := List.forall_mem_cons.1 h
    exact .append (.cons rfl (lexical_renderTest htest)) (ih halternatives)

theorem lexical_renderTests (h : ∀ test ∈ alternatives, test.isCanonical = true) :
    Lexical (Cell.renderTests alternatives) := by
  cases alternatives with
  | nil => exact .nil
  | cons test alternatives =>
    obtain ⟨htest, halternatives⟩ := List.forall_mem_cons.1 h
    exact .append (lexical_renderTest htest) (lexical_renderMoreTests halternatives)

theorem lexical_renderCell (h : c.isCanonical = true) : Lexical c.render := by
  cases c with
  | any => exact .cons rfl .nil
  | tests negated alternatives =>
    rw [Cell.isCanonical, Bool.and_eq_true, List.all_eq_true] at h
    have htests := lexical_renderTests h.2
    cases negated with
    | false => exact htests
    | true => exact .append (.cons rfl (.cons rfl htests)) (.cons rfl .nil)

-- What is read is canonical.

theorem ensures_cellTest (h : Lexical ts) : (cellTest ts).Ensures (·.isCanonical = true) := by
  unfold cellTest
  split
  · split
    case h_1 hop =>
      have hlead : BinaryOp.leadsTest _ = true :=
        leadsTest_iff.2 ⟨_, (comparisonOp?_eq_some_iff.1 hop).1.symm, hop⟩
      refine ((ensures_expression _ h.tail).map fun e he => ?_).widen
      rw [CellTest.isCanonical, hlead, he]
      rfl
    case h_2 => exact (ensures_expression _ h).map fun e he => he
  · exact (ensures_expression _ h).map fun e he => he

theorem ensures_commaTests (h : Lexical ts) :
    (commaTests ts).Ensures fun tests => ∀ test ∈ tests, test.isCanonical = true := by
  fun_induction commaTests ts with
  | case1 rest ih =>
    refine (ensures_cellTest h.tail).andThen fun test rest hlt htest hrest => ?_
    refine .widen ((ih rest hlt hrest).map fun tests htests => ?_)
    exact List.forall_mem_cons.2 ⟨htest, htests⟩
  | case2 ts => exact ⟨nofun, h⟩

theorem ensures_cellTests (h : Lexical ts) :
    (cellTests ts).Ensures fun tests =>
      tests ≠ [] ∧ ∀ test ∈ tests, test.isCanonical = true := by
  rw [cellTests]
  refine (ensures_cellTest h).andThen fun test rest _ htest hrest => ?_
  refine .widen ((ensures_commaTests hrest).map fun tests htests => ?_)
  exact ⟨nofun, List.forall_mem_cons.2 ⟨htest, htests⟩⟩

theorem isCanonical_tests {negated : Bool} (hne : alternatives ≠ [])
    (h : ∀ test ∈ alternatives, test.isCanonical = true) :
    (Cell.tests negated alternatives).isCanonical = true := by
  rw [Cell.isCanonical, Bool.and_eq_true, Bool.not_eq_true', List.isEmpty_eq_false_iff,
    List.all_eq_true]
  exact ⟨hne, h⟩

theorem of_complete {α : Type} {n : Nat} {P : α → Prop} {r : Reply α n} {value : α}
    (hcomplete : complete r = .ok value) (h : r.Ensures P) : P value := by
  unfold complete at hcomplete
  split at hcomplete
  · cases hcomplete
    exact h.1
  · cases hcomplete
  · cases hcomplete

theorem isCanonical_of_anyCell (h : anyCell ts = .ok c) : c.isCanonical = true := by
  unfold anyCell at h
  split at h <;> cases h
  rfl

theorem isCanonical_of_negatedCell (h : Lexical ts) (hc : negatedCell ts = .ok c) :
    c.isCanonical = true := by
  unfold negatedCell at hc
  split at hc
  case h_1 =>
    refine of_complete (P := (·.isCanonical = true)) hc ?_
    refine (ensures_cellTests h.tail.tail).andThen fun tests rest _ htests hrest => ?_
    refine ((ensures_delimiter hrest).map fun _ _ => ?_).widen
    exact isCanonical_tests htests.1 htests.2
  all_goals cases hc

theorem isCanonical_of_plainCell (h : Lexical ts) (hc : plainCell ts = .ok c) :
    c.isCanonical = true :=
  of_complete (P := (·.isCanonical = true)) hc
    ((ensures_cellTests h).map fun _ htests => isCanonical_tests htests.1 htests.2)

theorem eq_of_orElse {α : Type} {a b : Except Failure α} {x : α} (h : orElse a b = .ok x) :
    a = .ok x ∨ b = .ok x := by
  unfold orElse at h
  split at h
  · exact .inl h
  · exact .inr h
  · cases h

theorem isCanonical_of_cell (h : Lexical ts) (hc : cell ts = .ok c) : c.isCanonical = true := by
  unfold cell at hc
  split at hc
  case h_1 heq =>
    cases hc
    obtain heq | hplain := eq_of_orElse heq
    · obtain hany | hnegated := eq_of_orElse heq
      · exact isCanonical_of_anyCell hany
      · exact isCanonical_of_negatedCell h hnegated
    · exact isCanonical_of_plainCell h hplain
  case h_2 => split at hc <;> cases hc

theorem exists_text_renderCell (h : c.isCanonical = true) :
    ∃ text, textTokens text = .ok c.render :=
  exists_textTokens_iff.2 (lexical_renderCell h)

theorem cell_isCanonical_iff_read_and_render_read :
    (∀ c : Cell, (∃ text ts, textTokens text = .ok ts ∧ cell ts = .ok c) ↔
      c.isCanonical = true) ∧
    ∀ c : Cell, c.isCanonical = true →
      (∃ text, textTokens text = .ok c.render) ∧ cell c.render = .ok c := by
  refine ⟨fun c => ⟨?_, fun h => ?_⟩, fun c h => ⟨exists_text_renderCell h, cell_render h⟩⟩
  · rintro ⟨text, ts, htext, hread⟩
    exact isCanonical_of_cell (exists_textTokens_iff.1 ⟨text, htext⟩) hread
  · obtain ⟨text, htext⟩ := exists_text_renderCell h
    exact ⟨text, c.render, htext, cell_render h⟩

-- `not("x", (a..b], (not b), >= if b then null else a)`.
theorem cell_isCanonical_iff_read_and_render_read_negated :
    cell [.keyword .not, .delimiter .openParen, .string "x", .delimiter .comma,
      .delimiter .openParen, .identifier "a", .operator .range, .identifier "b",
      .delimiter .closeBracket, .delimiter .comma, .delimiter .openParen, .keyword .not,
      .identifier "b", .delimiter .closeParen, .delimiter .comma, .operator .greaterEqual,
      .keyword .if, .identifier "b", .keyword .then, .keyword .null, .keyword .else,
      .identifier "a", .delimiter .closeParen] =
    .ok (.tests true [.expression (.literal (.string "x")),
      .expression (.range (.reference "a") (.reference "b") false true),
      .expression (.unary .not (.reference "b")),
      .comparison .greaterEqual (.conditional (.reference "b") (.literal .null)
        (.reference "a"))]) :=
  (cell_isCanonical_iff_read_and_render_read.2 (.tests true [.expression (.literal (.string "x")),
    .expression (.range (.reference "a") (.reference "b") false true),
    .expression (.unary .not (.reference "b")),
    .comparison .greaterEqual (.conditional (.reference "b") (.literal .null)
      (.reference "a"))]) (by decide +kernel)).2

end Syntax

end Rulebook
