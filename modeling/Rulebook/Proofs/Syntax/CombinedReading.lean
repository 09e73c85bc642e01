import Rulebook.Proofs.Syntax.CombinedGrammar

/-!
The rules that decide by one token give the answers of the grammar that tries one way after the
other. Of all ways one at most gets past its first token; so a failure there is the furthest one.
-/

namespace Rulebook.Syntax

open Rulebook.Syntax.Grammar
open Nonterminal (Output)

variable {α β : Type} {n : Nat} {ts : List Token}

-- On fewer than `n` tokens all levels read the same.
def Agree (n : Nat) : Prop :=
  ∀ us : List Token, us.length < n → ∀ k : Level,
    (k.parse us).answer = grammar.answer (.rule (.form k)) us

namespace Agree

variable {us : List Token}

theorem expression (h : Agree n) (hlt : us.length < n) :
    (expression us).answer = grammar.answer .expression us :=
  h us hlt .whole

theorem sum (h : Agree n) (hlt : us.length < n) : (sum us).answer = grammar.answer .sum us := by
  rw [Syntax.sum]
  exact h us hlt .additive

end Agree

-- The alternative by which a primary expression is read.
def Parser.startingWith : Token → Parser Output true Expr
  | .keyword .if => .rule .conditional
  | .keyword .for => .rule .loop
  | .keyword .some | .keyword .every => .rule .quantified
  | .delimiter .openParen => .rule .parenthesized
  | .delimiter .openBracket => .rule .bracketed
  | .delimiter .closeBracket => .rule .leftOpenRange
  | .delimiter .openBrace => .rule .contextLiteral
  | .identifier _ => .rule .nameOrCall
  | _ => .map Expr.literal (.satisfy literal?)

theorem answer_startingWith (t : Token) : grammar.answer (.rule (.form .primary)) (t :: ts) =
    grammar.answer (.startingWith t) (t :: ts) := by
  rw [answer_rule, Parser.ofRule]
  cases t with
  | identifier name =>
    iterate 8 rw [answer_either_right rfl]
    rfl
  | keyword k =>
    cases k with
    | «if» => rw [answer_either_right rfl, answer_either_left rfl]; rfl
    | «for» => rw [answer_either_right rfl, answer_either_right rfl, answer_either_left rfl]; rfl
    | some | every =>
      iterate 3 rw [answer_either_right rfl]
      rw [answer_either_left rfl]
      rfl
    | _ => rw [answer_either_left rfl]; rfl
  | delimiter d =>
    cases d with
    | openParen =>
      iterate 4 rw [answer_either_right rfl]
      rw [answer_either_left rfl]
      rfl
    | openBracket =>
      iterate 5 rw [answer_either_right rfl]
      rw [answer_either_left rfl]
      rfl
    | closeBracket =>
      iterate 6 rw [answer_either_right rfl]
      rw [answer_either_left rfl]
      rfl
    | openBrace =>
      iterate 7 rw [answer_either_right rfl]
      rw [answer_either_left rfl]
      rfl
    | _ => rw [answer_either_left rfl]; rfl
  | _ => rw [answer_either_left rfl]; rfl

theorem answer_literal {t : Token}
    (h : Parser.startingWith t = .map Expr.literal (.satisfy literal?)) :
    grammar.answer (.startingWith t) (t :: ts) =
      (accept literal? (t :: ts)).map Expr.literal := by
  rw [h, answer_map, answer_satisfy]

section Parts

variable {lower inner first base left : Expr} {included : Bool} {quantifier : Quantifier}

theorem answer_rangeTail_of_ne (h : ∀ rest, ts ≠ .operator .range :: rest) :
    grammar.answer (.rule .rangeTail) ts = .fail ts := by
  rw [answer_rule, Parser.ofRule, answer_preceded, answer_operator_of_ne h, Answer.andThen_fail]

theorem answer_rangeTail (h : Agree n) (hlt : ts.length < n) :
    (rangeTail lower included ts).answer =
      (grammar.answer (.rule .rangeTail) (.operator .range :: ts)).map fun (upper, upperIncluded) =>
        .range lower upper included upperIncluded := by
  rw [rangeTail, answer_rule, Parser.ofRule, answer_preceded, answer_operator_cons,
    Answer.andThen_ok, answer_pair, Answer.map_andThen]
  refine Reply.answer_andThen (h.expression hlt) fun upper rest _ => ?_
  rw [Reply.answer_widen, Reply.answer_map, answer_intervalEnd, Answer.map_map]

theorem answer_parenTail (h : Agree n) (hlt : ts.length < n) :
    (parenTail inner ts).answer =
      (grammar.answer
        (.either (.map some (.rule .rangeTail)) (.map (fun _ => none) (.delimiter .closeParen)))
        ts).map fun tail =>
          tail.elim inner fun (upper, upperIncluded) => .range inner upper false upperIncluded := by
  rw [parenTail.eq_def]
  split
  case h_1 rest =>
    rw [answer_either_left rfl, answer_map, Answer.map_map, Reply.answer_widen,
      answer_rangeTail h (Nat.lt_trans (Nat.lt_succ_self _) hlt)]
    rfl
  case h_2 rest =>
    rw [answer_either_right rfl, answer_map, answer_delimiter_cons]
    rfl
  case h_3 hrange hclose =>
    rw [answer_either_of_fail_left, answer_map, answer_delimiter_of_ne fun _ => hclose _]
    · rfl
    · rw [answer_map, answer_rangeTail_of_ne fun _ => hrange _, Answer.map_fail]

-- Items, each after a comma.
theorem answer_commaList {p : Parser Output true α} {item : (us : List Token) → Reply α us.length}
    {items : (us : List Token) → Reply (List α) (us.length + 1)}
    (hitem : ∀ us : List Token, us.length < n → (item us).answer = grammar.answer p us)
    (hcomma : ∀ us, (items (.delimiter .comma :: us)).answer =
      (item us).answer.andThen fun value rest => (items rest).answer.map (value :: ·))
    (hother : ∀ us, (∀ rest, us ≠ .delimiter .comma :: rest) → (items us).answer = .ok [] us)
    (hlt : ts.length < n) :
    (items ts).answer = grammar.answer (.many (.preceded (.delimiter .comma) p)) ts := by
  refine answer_many_eq (g := fun us => (items us).answer) (fun us hus => ?_) hlt
  by_cases h : ∃ rest, us = .delimiter .comma :: rest
  case pos =>
    obtain ⟨rest, rfl⟩ := h
    refine .inr ⟨started_preceded (started_of_ok answer_delimiter_cons), ?_⟩
    rw [answer_preceded, answer_delimiter_cons, Answer.andThen_ok, hcomma,
      hitem rest (Nat.lt_of_succ_lt hus)]
  case neg =>
    have hne : ∀ rest, us ≠ .delimiter .comma :: rest := fun rest hus => h ⟨rest, hus⟩
    refine .inl ⟨?_, hother us hne⟩
    rw [answer_preceded, answer_delimiter_of_ne hne, Answer.andThen_fail]

theorem answer_commaItems (h : Agree n) (hlt : ts.length < n) :
    (commaItems ts).answer = grammar.answer (.many .item) ts := by
  refine answer_commaList (fun us => h.expression) (fun us => ?_) (fun us hus => ?_) hlt
  · rw [commaItems]
    exact Reply.answer_andThen rfl fun _ _ _ => by rw [Reply.answer_widen, Reply.answer_map]
  · rw [commaItems.eq_2 us fun rest h => hus rest h]
    rfl

theorem answer_bracketTail (h : Agree n) (hlt : ts.length < n) :
    (bracketTail first ts).answer =
      (grammar.answer
        (.either
          (.map (fun (upper, included) first => Expr.range first upper true included)
            (.rule .rangeTail))
          (.map (fun (rest, _) first => Expr.list (first :: rest))
            (.pair (.many .item) (.delimiter .closeBracket))))
        ts).map fun tail => tail first := by
  have hnone (us : List Token) (hcomma : ∀ rest, us ≠ .delimiter .comma :: rest) :
      grammar.answer (.many .item) us = .ok [] us := by
    refine answer_many_of_fail ?_
    rw [Parser.item, answer_preceded, answer_delimiter_of_ne hcomma, Answer.andThen_fail]
  rw [bracketTail.eq_def]
  split
  case h_1 rest =>
    rw [answer_either_of_fail_right, answer_map, Answer.map_map, Reply.answer_widen,
      answer_rangeTail h (Nat.lt_of_succ_lt hlt)]
    rw [answer_map, answer_pair, hnone _ (by simp), Answer.andThen_ok,
      answer_delimiter_of_ne (by simp)]
    rfl
  case h_2 rest =>
    rw [answer_either_right rfl, answer_map, answer_pair, hnone _ (by simp), Answer.andThen_ok,
      answer_delimiter_cons]
    rfl
  case h_3 rest =>
    rw [answer_either_right rfl, answer_map, Answer.map_map, answer_pair, Answer.map_andThen]
    refine Reply.answer_andThen (answer_commaItems h hlt) fun items rest' _ => ?_
    rw [Answer.map_map]
    exact Reply.answer_andThen (g := fun _ us => .ok _ us) answer_delimiter fun _ us _ => rfl
  case h_4 hrange hclose hcomma =>
    rw [answer_either_of_fail_left, answer_map, answer_pair, hnone _ fun _ => hcomma _,
      Answer.andThen_ok, answer_delimiter_of_ne fun _ => hclose _]
    · rfl
    · rw [answer_map, answer_rangeTail_of_ne fun _ => hrange _, Answer.map_fail]

-- A comma that fails does so at once.
theorem answer_afterComma {p : Parser Output true α} :
    grammar.answer (.following (.delimiter .comma) p) ts =
      grammar.answer (.many (.preceded (.delimiter .comma) p)) ts :=
  answer_following_eq fun _ _ => answer_token_of_fail

theorem answer_arguments (h : Agree n) (hlt : ts.length < n) :
    (arguments ts).answer =
      grammar.answer (.separated (.delimiter .comma) .expression) ts := by
  have hfirst := h.expression hlt
  rw [arguments.eq_def, answer_separated, ← hfirst]
  cases expression ts with
  | fail failure =>
    exact Reply.answer_unlessTaken
  | ok first rest hrest =>
    dsimp only
    rw [Reply.answer_widen, Reply.answer_map, answer_commaItems h (Nat.lt_trans hrest hlt)]
    exact congrArg _ answer_afterComma.symm

theorem answer_entry (h : Agree n) (hlt : ts.length < n) :
    (entry ts).answer = grammar.answer .entry ts := by
  rw [entry, Parser.entry, answer_map, answer_pair, Answer.map_andThen]
  refine Reply.answer_andThen answer_contextKey fun key rest hrest => ?_
  rw [Answer.map_map, answer_pair, Answer.map_andThen]
  refine Reply.answer_andThen answer_delimiter fun _ rest' hrest' => ?_
  rw [Answer.map_map, Reply.answer_widen, Reply.answer_map, h.expression (by omega)]

theorem answer_commaEntries (h : Agree n) (hlt : ts.length < n) :
    (commaEntries ts).answer =
      grammar.answer (.many (.preceded (.delimiter .comma) .entry)) ts := by
  refine answer_commaList (fun us => answer_entry h) (fun us => ?_) (fun us hus => ?_) hlt
  · rw [commaEntries]
    exact Reply.answer_andThen rfl fun _ _ _ => by rw [Reply.answer_widen, Reply.answer_map]
  · rw [commaEntries.eq_2 us fun rest h => hus rest h]
    rfl

theorem answer_entries (h : Agree n) (hlt : ts.length < n) :
    (entries ts).answer = grammar.answer (.separated (.delimiter .comma) .entry) ts := by
  have hfirst := answer_entry h hlt
  rw [entries.eq_def, answer_separated, ← hfirst]
  cases entry ts with
  | fail failure =>
    exact Reply.answer_unlessTaken
  | ok first rest hrest =>
    dsimp only
    rw [Reply.answer_widen, Reply.answer_map, answer_commaEntries h (Nat.lt_trans hrest hlt)]
    exact congrArg _ answer_afterComma.symm

theorem answer_suffixes (h : Agree n) (hlt : ts.length < n) :
    (suffixes base ts).answer = (grammar.answer (.many .suffix) ts).map
      (List.foldl (fun base suffix => suffix base) base) := by
  refine answer_many_foldl (g := fun base us => (suffixes base us).answer)
    (fun base us hus => ?_) base hlt
  rw [suffixes.eq_def]
  split
  case h_1 rest =>
    rw [Parser.suffix, answer_either_left rfl]
    refine .inr ⟨started_map (started_preceded (started_of_ok answer_operator_cons)), ?_⟩
    rw [answer_map, answer_preceded, answer_operator_cons, Answer.andThen_ok, Answer.andThen_map]
    refine Reply.answer_andThen answer_identifier fun key rest _ => ?_
    rw [Reply.answer_widen]
  case h_2 rest =>
    rw [Parser.suffix, answer_either_right rfl]
    refine .inr ⟨started_map (started_delimited (started_of_ok answer_delimiter_cons)), ?_⟩
    rw [answer_map, answer_delimited, answer_delimiter_cons, Answer.andThen_ok, Answer.andThen_map,
      Answer.andThen_assoc]
    refine Reply.answer_andThen (h.expression (Nat.lt_of_succ_lt hus)) fun predicate rest _ => ?_
    rw [Answer.andThen_map]
    refine Reply.answer_andThen answer_delimiter fun _ rest _ => ?_
    rw [Reply.answer_widen]
  case h_3 hdot hbracket =>
    refine .inl ⟨?_, rfl⟩
    rw [Parser.suffix, answer_either_of_fail_left, answer_map, answer_delimited,
      answer_delimiter_of_ne fun _ => hbracket _, Answer.andThen_fail, Answer.map_fail]
    rw [answer_map, answer_preceded, answer_operator_of_ne fun _ => hdot _, Answer.andThen_fail,
      Answer.map_fail]

theorem answer_chainTail {c : Chain} (h : Agree n) (hlt : ts.length < n) :
    (chainTail c left ts).answer = (grammar.answer (.many (.link c)) ts).map
      (List.foldl (fun left (op, right) => .binary op left right) left) := by
  refine answer_many_foldl (g := fun left us => (chainTail c left us).answer)
    (fun left us hus => ?_) left hlt
  rw [chainTail.eq_def]
  cases us with
  | nil =>
    exact .inl ⟨answer_nil, rfl⟩
  | cons t rest =>
    have hop : grammar.answer (.satisfy c.op?) (t :: rest) = accept c.op? (t :: rest) :=
      answer_satisfy
    dsimp only
    cases ht : c.op? t with
    | none =>
      refine .inl ⟨?_, rfl⟩
      rw [Parser.link, answer_pair, hop, accept, ht]
      rfl
    | some op =>
      rw [accept, ht] at hop
      refine .inr ⟨started_pair (started_of_ok hop), ?_⟩
      rw [Parser.link, answer_pair, hop, Answer.andThen_ok, Answer.andThen_map]
      dsimp only
      refine Reply.answer_andThen ?_ fun right rest _ => ?_
      · rw [parse_operand]
        exact h rest (Nat.lt_of_succ_lt hus) _
      · rw [Reply.answer_widen]

theorem answer_powerTail (h : Agree n) (hlt : ts.length < n) :
    (powerTail base ts).answer =
      (grammar.answer (.optional (.preceded (.operator .power) (.rule (.form .power)))) ts).map
        fun exponent => exponent.elim base (Expr.binary .power base) := by
  rw [powerTail.eq_def]
  split
  case h_1 rest =>
    rw [answer_optional_of_started (started_preceded (started_of_ok answer_operator_cons)),
      answer_preceded, answer_operator_cons, Answer.andThen_ok, Answer.map_map,
      Reply.answer_widen, Reply.answer_map, ← h rest (Nat.lt_of_succ_lt hlt) .power]
    rfl
  case h_2 hpower =>
    rw [answer_optional_of_fail]
    · rfl
    · rw [answer_preceded, answer_operator_of_ne fun _ => hpower _, Answer.andThen_fail]

theorem answer_comparisonTail (h : Agree n) (hlt : ts.length < n) :
    (comparisonTail left ts).answer =
      (grammar.answer (.optional (.rule .comparisonSuffix)) ts).map
        fun suffix => suffix.elim left (· left) := by
  have hsuffix : grammar.answer (.rule .comparisonSuffix) ts = _ := answer_rule .comparisonSuffix
  rw [Parser.ofRule] at hsuffix
  rw [comparisonTail.eq_def]
  split
  case h_1 rest =>
    rw [answer_either_right rfl, answer_either_right rfl, answer_either_left rfl] at hsuffix
    rw [answer_optional_of_started, hsuffix, answer_map, answer_pair, answer_preceded,
      answer_keyword_cons]
    · simp only [Answer.andThen_ok, Answer.map_andThen, Answer.map_map]
      refine Reply.answer_andThen (h.sum (Nat.lt_of_succ_lt hlt)) fun lower rest hrest => ?_
      rw [answer_preceded, Answer.map_andThen]
      refine Reply.answer_andThen answer_keyword fun _ rest' hrest' => ?_
      rw [List.length_cons] at hlt
      rw [Reply.answer_widen, Reply.answer_map, h.sum (by omega)]
      rfl
    · rw [hsuffix]
      exact started_map (started_pair (started_preceded (started_of_ok answer_keyword_cons)))
  case h_2 rest =>
    rw [answer_either_right rfl, answer_either_right rfl, answer_either_right rfl] at hsuffix
    rw [answer_optional_of_started, hsuffix, answer_map, answer_preceded, answer_keyword_cons]
    · simp only [Answer.andThen_ok, Answer.map_map, answer_preceded, Answer.map_andThen]
      refine Reply.answer_andThen answer_keyword fun _ rest hrest => ?_
      rw [Reply.answer_widen, Reply.answer_map, answer_typeName]
      rfl
    · rw [hsuffix]
      exact started_map (started_preceded (started_of_ok answer_keyword_cons))
  case h_3 t rest hbetween hinstance =>
    cases hop : comparisonOp? t with
    | none =>
      have hrefuses : grammar.refuses t (.ofRule .comparisonSuffix) := by
        cases t with
        | keyword k =>
          cases k with
          | between => exact absurd rfl hbetween
          | instanceWord => exact absurd rfl hinstance
          | «in» => cases hop
          | _ => rfl
        | operator o => cases o <;> first | rfl | cases hop
        | _ => rfl
      rw [answer_optional_of_fail (hsuffix.trans (answer_of_refuses_head hrefuses))]
      rfl
    | some op =>
      have hright : (sum rest).answer = grammar.answer .sum rest := h.sum (Nat.lt_of_succ_lt hlt)
      cases t with
      | operator o =>
        have hfirst : grammar.answer .comparisonOperator (.operator o :: rest) = .ok op rest := by
          rw [Parser.comparisonOperator, answer_satisfy, accept]
          simp only [hop]
        rw [answer_either_left rfl] at hsuffix
        rw [answer_optional_of_started, hsuffix, answer_map, answer_pair, hfirst,
          Reply.answer_widen, Reply.answer_map, hright]
        · simp only [Answer.andThen_ok, Answer.map_map]
          rfl
        · rw [hsuffix]
          exact started_map (started_pair (started_of_ok hfirst))
      | keyword k =>
        cases k with
        | «in» =>
          cases hop
          rw [answer_either_right rfl, answer_either_left rfl] at hsuffix
          rw [answer_optional_of_started, hsuffix, answer_map, answer_preceded, answer_keyword_cons,
            Reply.answer_widen, Reply.answer_map, hright]
          · simp only [Answer.andThen_ok, Answer.map_map]
            rfl
          · rw [hsuffix]
            exact started_map (started_preceded (started_of_ok answer_keyword_cons))
        | _ => cases hop
      | _ => cases hop
  case h_4 =>
    rw [answer_optional_of_fail answer_nil]
    rfl

end Parts

section Primary

variable {n : Nat} {rest : List Token} (h : Agree n)
include h

theorem answer_conditional (hlt : rest.length < n) : (primary (.keyword .if :: rest)).answer =
    grammar.answer (.rule .conditional) (.keyword .if :: rest) := by
  rw [primary.eq_def, answer_rule, Parser.ofRule]
  simp only [answer_map, answer_pair, answer_preceded, answer_keyword_cons, Answer.andThen_ok,
    Answer.map_andThen, Answer.andThen_assoc, Answer.map_map]
  refine Reply.answer_andThen (h.expression hlt) fun condition rest _ => ?_
  refine Reply.answer_andThen answer_keyword fun _ rest _ => ?_
  refine Reply.answer_andThen (h.expression (by omega)) fun yes rest _ => ?_
  refine Reply.answer_andThen answer_keyword fun _ rest _ => ?_
  rw [Reply.answer_widen, Reply.answer_map, h.expression (by omega)]

theorem answer_loop (hlt : rest.length < n) : (primary (.keyword .for :: rest)).answer =
    grammar.answer (.rule .loop) (.keyword .for :: rest) := by
  rw [primary.eq_def, answer_rule, Parser.ofRule]
  simp only [answer_map, answer_pair, answer_preceded, answer_keyword_cons, Answer.andThen_ok,
    Answer.map_andThen, Answer.andThen_assoc, Answer.map_map]
  refine Reply.answer_andThen answer_identifier fun name rest _ => ?_
  refine Reply.answer_andThen answer_keyword fun _ rest _ => ?_
  refine Reply.answer_andThen (h.expression (by omega)) fun source rest _ => ?_
  refine Reply.answer_andThen answer_keyword fun _ rest _ => ?_
  rw [Reply.answer_widen, Reply.answer_map, h.expression (by omega)]

theorem answer_quantified {t : Token} {quantifier : Quantifier} (hlt : rest.length < n)
    (ht : grammar.answer .quantifier (t :: rest) = .ok quantifier rest) :
    (quantified quantifier rest).answer = grammar.answer (.rule .quantified) (t :: rest) := by
  rw [quantified, answer_rule, Parser.ofRule]
  simp only [answer_map, answer_pair, answer_preceded, ht, Answer.andThen_ok,
    Answer.map_andThen, Answer.andThen_assoc, Answer.map_map]
  refine Reply.answer_andThen answer_identifier fun name rest _ => ?_
  refine Reply.answer_andThen answer_keyword fun _ rest _ => ?_
  refine Reply.answer_andThen (h.expression (by omega)) fun source rest _ => ?_
  refine Reply.answer_andThen answer_keyword fun _ rest _ => ?_
  rw [Reply.answer_widen, Reply.answer_map, h.expression (by omega)]

theorem answer_parenthesized (hlt : rest.length < n) :
    (primary (.delimiter .openParen :: rest)).answer =
      grammar.answer (.rule .parenthesized) (.delimiter .openParen :: rest) := by
  rw [primary.eq_def, answer_rule, Parser.ofRule]
  simp only [answer_map (f := fun x : Expr × Option (Expr × Bool) => _), answer_pair,
    answer_preceded, answer_delimiter_cons, Answer.andThen_ok, Answer.map_andThen, Answer.map_map]
  refine Reply.answer_andThen (h.expression hlt) fun inner rest _ => ?_
  rw [Reply.answer_widen, answer_parenTail h (by omega)]

theorem answer_bracketed (hlt : rest.length < n) :
    (primary (.delimiter .openBracket :: rest)).answer =
      grammar.answer (.rule .bracketed) (.delimiter .openBracket :: rest) := by
  rw [answer_rule, Parser.ofRule, answer_preceded, answer_delimiter_cons, Answer.andThen_ok]
  by_cases hclose : ∃ us, rest = .delimiter .closeBracket :: us
  case pos =>
    obtain ⟨us, rfl⟩ := hclose
    have hempty : grammar.answer (.map (fun _ => Expr.list []) (.delimiter .closeBracket))
        (.delimiter .closeBracket :: us) = .ok (.list []) us := by
      rw [answer_map, answer_delimiter_cons, Answer.map_ok]
    rw [primary.eq_6, answer_either_of_ok hempty]
    rfl
  case neg =>
    have hne : ∀ us, rest ≠ .delimiter .closeBracket :: us := fun us hus => hclose ⟨us, hus⟩
    rw [primary.eq_7 _ hne, answer_either_of_fail_left, answer_map, answer_pair,
      Answer.map_andThen]
    · refine Reply.answer_andThen (h.expression hlt) fun first rest _ => ?_
      rw [Reply.answer_widen, answer_bracketTail h (by omega), Answer.map_map]
    · rw [answer_map, answer_delimiter_of_ne hne, Answer.map_fail]

theorem answer_leftOpenRange (hlt : rest.length < n) :
    (primary (.delimiter .closeBracket :: rest)).answer =
      grammar.answer (.rule .leftOpenRange) (.delimiter .closeBracket :: rest) := by
  rw [primary.eq_def, answer_rule, Parser.ofRule]
  simp only [answer_map, answer_pair,
    answer_preceded, answer_delimiter_cons, Answer.andThen_ok, Answer.map_andThen, Answer.map_map]
  refine Reply.answer_andThen (h.expression hlt) fun lower rest _ => ?_
  rw [answer_rule, Parser.ofRule, answer_preceded, Answer.map_andThen]
  refine Reply.answer_andThen answer_operator fun _ rest _ => ?_
  rw [Reply.answer_widen, answer_rangeTail h (by omega), answer_rule, Parser.ofRule,
    answer_preceded, answer_operator_cons, Answer.andThen_ok]

theorem answer_contextLiteral (hlt : rest.length < n) :
    (primary (.delimiter .openBrace :: rest)).answer =
      grammar.answer (.rule .contextLiteral) (.delimiter .openBrace :: rest) := by
  rw [primary.eq_def, answer_rule, Parser.ofRule]
  simp only [answer_map, answer_delimited, answer_delimiter_cons, Answer.andThen_ok,
    Answer.map_andThen, Answer.map_map]
  refine Reply.answer_andThen (answer_entries h hlt) fun entries rest _ => ?_
  exact Reply.answer_andThen answer_delimiter fun _ rest _ => rfl

theorem answer_nameOrCall {name : String} (hlt : rest.length < n) :
    (primary (.identifier name :: rest)).answer =
      grammar.answer (.rule .nameOrCall) (.identifier name :: rest) := by
  rw [answer_rule, Parser.ofRule, answer_map, answer_pair, answer_identifier_cons,
    Answer.andThen_ok]
  by_cases hopen : ∃ us, rest = .delimiter .openParen :: us
  case pos =>
    obtain ⟨us, rfl⟩ := hopen
    rw [primary.eq_10,
      answer_optional_of_started (started_delimited (started_of_ok answer_delimiter_cons)),
      answer_delimited, answer_delimiter_cons]
    simp only [Answer.andThen_ok, Answer.map_andThen, Answer.map_map]
    refine Reply.answer_andThen (answer_arguments h (Nat.lt_of_succ_lt hlt)) fun items rest _ => ?_
    exact Reply.answer_andThen answer_delimiter fun _ rest _ => rfl
  case neg =>
    have hne : ∀ us, rest ≠ .delimiter .openParen :: us := fun us hus => hopen ⟨us, hus⟩
    rw [primary.eq_11 _ _ hne, answer_optional_of_fail]
    · rfl
    · rw [answer_delimited, answer_delimiter_of_ne hne, Answer.andThen_fail]

theorem answer_primary (hts : ts.length ≤ n) :
    (primary ts).answer = grammar.answer (.rule (.form .primary)) ts := by
  cases ts with
  | nil =>
    rw [primary.eq_def, Parser.rule, answer_nil]
    rfl
  | cons t rest =>
    rw [answer_startingWith]
    cases t with
    | identifier name => exact answer_nameOrCall h hts
    | keyword k =>
      cases k with
      | «if» => exact answer_conditional h hts
      | «for» => exact answer_loop h hts
      | some =>
        rw [primary.eq_def, Reply.answer_widen]
        exact answer_quantified h hts (by rw [Parser.quantifier, answer_satisfy, accept])
      | every =>
        rw [primary.eq_def, Reply.answer_widen]
        exact answer_quantified h hts (by rw [Parser.quantifier, answer_satisfy, accept])
      | _ =>
        rw [primary.eq_def, answer_literal rfl]
        rfl
    | delimiter d =>
      cases d with
      | openParen => exact answer_parenthesized h hts
      | openBracket => exact answer_bracketed h hts
      | closeBracket => exact answer_leftOpenRange h hts
      | openBrace => exact answer_contextLiteral h hts
      | _ =>
        rw [primary.eq_def, answer_literal rfl]
        rfl
    | _ =>
      rw [primary.eq_def, answer_literal rfl]
      rfl

theorem answer_postfixed (hts : ts.length ≤ n) :
    (postfixed ts).answer = grammar.answer (.rule (.form .suffix)) ts := by
  rw [postfixed, answer_rule, Parser.ofRule, answer_map, answer_pair, Answer.map_andThen]
  refine Reply.answer_andThen (answer_primary h hts) fun base rest hrest => ?_
  rw [Reply.answer_widen, answer_suffixes h (Nat.lt_of_lt_of_le hrest hts), Answer.map_map]

theorem answer_negative (hts : ts.length ≤ n) :
    (negative ts).answer = grammar.answer (.rule (.form .sign)) ts := by
  rw [negative.eq_def, answer_rule, Parser.ofRule]
  split
  case h_1 rest =>
    have hminus : (postfixed (.operator .minus :: rest)).Rejects (.operator .minus :: rest) :=
      postfixed_rejects (primary_rejects_operator .minus)
    rw [answer_either_of_fail_right, answer_map, answer_preceded, answer_operator_cons,
      Answer.andThen_ok, Reply.answer_widen, Reply.answer_map, ← h rest hts .sign]
    · rfl
    · rw [← answer_postfixed h hts, Reply.answer_of_rejects hminus]
  case h_2 hminus =>
    rw [answer_either_of_fail_left, answer_postfixed h hts]
    rw [answer_map, answer_preceded, answer_operator_of_ne fun _ => hminus _, Answer.andThen_fail,
      Answer.map_fail]

theorem answer_power (hts : ts.length ≤ n) :
    (power ts).answer = grammar.answer (.rule (.form .power)) ts := by
  rw [power, answer_rule, Parser.ofRule, answer_map, answer_pair, Answer.map_andThen]
  refine Reply.answer_andThen (answer_negative h hts) fun base rest hrest => ?_
  rw [Reply.answer_widen, answer_powerTail h (Nat.lt_of_lt_of_le hrest hts), Answer.map_map]

theorem answer_chain {c : Chain} (hts : ts.length ≤ n)
    (hoperand : (operand c ts).answer = grammar.answer (.rule (.form c.level.tighter)) ts) :
    (chain c ts).answer = grammar.answer (.chain c) ts := by
  rw [chain, Parser.chain, answer_map, answer_pair, Answer.map_andThen]
  refine Reply.answer_andThen hoperand fun left rest hrest => ?_
  rw [Reply.answer_widen, answer_chainTail h (Nat.lt_of_lt_of_le hrest hts), Answer.map_map]

theorem answer_multiplicative (hts : ts.length ≤ n) :
    (chain .multiplicative ts).answer = grammar.answer (.rule (.form .multiplicative)) ts := by
  have hoperand : (operand .multiplicative ts).answer =
      grammar.answer (.rule (.form .power)) ts := by
    rw [operand, answer_power h hts]
  rw [answer_chain h hts hoperand, answer_rule, Parser.ofRule]

theorem answer_sum (hts : ts.length ≤ n) : (sum ts).answer = grammar.answer .sum ts := by
  have hoperand : (operand .additive ts).answer =
      grammar.answer (.rule (.form .multiplicative)) ts := by
    rw [operand, answer_multiplicative h hts]
  rw [sum, answer_chain h hts hoperand, Parser.sum, answer_rule, Parser.ofRule]

theorem answer_comparison (hts : ts.length ≤ n) :
    (comparison ts).answer = grammar.answer (.rule (.form .comparison)) ts := by
  rw [comparison, answer_rule, Parser.ofRule, answer_map, answer_pair, Answer.map_andThen]
  refine Reply.answer_andThen (answer_sum h hts) fun left rest hrest => ?_
  rw [Reply.answer_widen, answer_comparisonTail h (Nat.lt_of_lt_of_le hrest hts), Answer.map_map]

theorem answer_negation (hts : ts.length ≤ n) :
    (negation ts).answer = grammar.answer (.rule (.form .negation)) ts := by
  rw [negation.eq_def, answer_rule, Parser.ofRule]
  split
  case h_1 rest =>
    have hnot : (comparison (.keyword .not :: rest)).Rejects (.keyword .not :: rest) :=
      comparison_rejects primary_rejects_not (by simp)
    rw [answer_either_of_fail_right, answer_map, answer_preceded, answer_keyword_cons,
      Answer.andThen_ok, Reply.answer_widen, Reply.answer_map, ← h rest hts .negation]
    · rfl
    · rw [← answer_comparison h hts, Reply.answer_of_rejects hnot]
  case h_2 hnot =>
    rw [answer_either_of_fail_left, answer_comparison h hts]
    rw [answer_map, answer_preceded, answer_keyword_of_ne fun _ => hnot _, Answer.andThen_fail,
      Answer.map_fail]

theorem answer_conjunction (hts : ts.length ≤ n) :
    (chain .conjunction ts).answer = grammar.answer (.rule (.form .conjunction)) ts := by
  have hoperand : (operand .conjunction ts).answer =
      grammar.answer (.rule (.form .negation)) ts := by
    rw [operand, answer_negation h hts]
  rw [answer_chain h hts hoperand, answer_rule, Parser.ofRule]

theorem answer_disjunction (hts : ts.length ≤ n) :
    (chain .disjunction ts).answer = grammar.answer (.rule (.form .disjunction)) ts := by
  have hoperand : (operand .disjunction ts).answer =
      grammar.answer (.rule (.form .conjunction)) ts := by
    rw [operand, answer_conjunction h hts]
  rw [answer_chain h hts hoperand, answer_rule, Parser.ofRule]

theorem answer_parse (hts : ts.length ≤ n) (k : Level) :
    (k.parse ts).answer = grammar.answer (.rule (.form k)) ts := by
  cases k with
  | whole =>
    rw [answer_rule, Parser.ofRule, ← answer_disjunction h hts]
    show (expression ts).answer = _
    rw [expression]
  | disjunction => exact answer_disjunction h hts
  | conjunction => exact answer_conjunction h hts
  | negation => exact answer_negation h hts
  | comparison => exact answer_comparison h hts
  | additive =>
    have hsum := answer_sum h hts
    rwa [sum] at hsum
  | multiplicative => exact answer_multiplicative h hts
  | power => exact answer_power h hts
  | sign => exact answer_negative h hts
  | suffix => exact answer_postfixed h hts
  | primary => exact answer_primary h hts

end Primary

theorem agree (n : Nat) : Agree n := by
  induction n with
  | zero => exact fun us hus => absurd hus (Nat.not_lt_zero _)
  | succ n ih => exact fun us hus k => answer_parse ih (Nat.le_of_lt_succ hus) k

theorem answer_form (k : Level) (ts : List Token) :
    (k.parse ts).answer = grammar.answer (.rule (.form k)) ts :=
  agree _ ts (Nat.lt_succ_self _) k

theorem answer_expression : (expression ts).answer = grammar.answer .expression ts :=
  answer_form .whole ts

section Cells

-- Nothing is left where nothing may follow.
def Answer.ofComplete : Except Failure α → Answer α
  | .ok value => .ok value []
  | .error failure => .fail failure.rest

theorem answer_complete {r : Reply β n} {c : Bool} {p : Parser Output c α} {f : α → β}
    (h : r.answer = (grammar.answer p ts).map f) : .ofComplete (complete r) =
      grammar.answer (.map (fun (value, _) => f value) (.pair p .endOfInput)) ts := by
  have hend : grammar.answer (.map (fun (value, _) => f value) (.pair p .endOfInput)) ts =
      r.answer.andThen fun value rest => if rest = [] then .ok value rest else .fail rest := by
    rw [answer_map, answer_pair, Answer.map_andThen, h, Answer.andThen_map]
    congr
    funext value rest
    rw [answer_endOfInput, Answer.map_map]
    split <;> rfl
  rw [hend]
  cases r with
  | fail failure => rfl
  | ok value rest hrest => cases rest <;> rfl

theorem answer_completeExpression :
    .ofComplete (completeExpression ts) = grammar.answer (.rule .completeExpression) ts := by
  rw [answer_rule, Parser.ofRule]
  exact answer_complete (answer_expression.trans Answer.map_self.symm)

theorem answer_cellTest : (cellTest ts).answer = grammar.answer (.rule .test) ts := by
  have hplain (us : List Token) (h : grammar.answer .comparisonOperator us = .fail us) :
      grammar.answer (.rule .test) us = (expression us).answer.map .expression := by
    rw [answer_rule, Parser.ofRule, answer_either_of_fail_left, answer_map, answer_expression]
    rw [answer_map, answer_pair, h, Answer.andThen_fail, Answer.map_fail]
  rw [cellTest.eq_def]
  split
  case h_1 o rest =>
    split
    case h_1 op hop =>
      have hminus : (Token.operator o :: rest).head? ≠ some (.operator .minus) := by
        intro hhead
        cases hhead
        cases hop
      have hnot : (Token.operator o :: rest).head? ≠ some (.keyword .not) := by simp
      have hexpression := expression_rejects (primary_rejects_operator o) hminus hnot
      rw [answer_rule, Parser.ofRule, answer_either_of_fail_right, answer_map, answer_pair,
        Parser.comparisonOperator, answer_satisfy, accept, Reply.answer_widen, Reply.answer_map,
        answer_expression]
      · simp only [hop, Answer.andThen_ok, Answer.map_map]
      · rw [answer_map, ← answer_expression, Reply.answer_of_rejects hexpression, Answer.map_fail]
    case h_2 hop =>
      rw [hplain, Reply.answer_map]
      rw [Parser.comparisonOperator, answer_satisfy, accept]
      simp only [hop]
  case h_2 hoperator =>
    rw [hplain, Reply.answer_map]
    rw [Parser.comparisonOperator, answer_satisfy]
    cases ts with
    | nil => rfl
    | cons t rest =>
      cases t with
      | operator o => exact absurd rfl (hoperator o rest)
      | _ => rfl

theorem answer_cellTests : (cellTests ts).answer = grammar.answer (.rule .tests) ts := by
  have hcommas (us : List Token) : (commaTests us).answer =
      grammar.answer (.many (.preceded (.delimiter .comma) (.rule .test))) us := by
    refine answer_commaList (fun us _ => answer_cellTest) (fun us => ?_) (fun us hus => ?_)
      (Nat.lt_succ_self _)
    · rw [commaTests]
      exact Reply.answer_andThen rfl fun _ _ _ => by rw [Reply.answer_widen, Reply.answer_map]
    · rw [commaTests.eq_2 us fun rest h => hus rest h]
      rfl
  rw [cellTests, answer_rule, Parser.ofRule, answer_map, answer_pair, Answer.map_andThen]
  refine Reply.answer_andThen answer_cellTest fun test rest _ => ?_
  rw [Answer.map_map, Reply.answer_widen, Reply.answer_map, hcommas]

theorem answer_anyCell : .ofComplete (anyCell ts) =
    grammar.answer (.map (fun _ => Cell.any) (.pair (.operator .minus) .endOfInput)) ts := by
  rw [answer_map, answer_pair]
  unfold anyCell
  split
  case h_1 =>
    rw [answer_operator_cons, Answer.andThen_ok, answer_endOfInput]
    rfl
  case h_2 rest hrest =>
    rw [answer_operator_cons, Answer.andThen_ok, answer_endOfInput, if_neg hrest]
    rfl
  case h_3 hminus =>
    rw [answer_operator_of_ne fun rest => hminus rest]
    rfl

theorem answer_negatedCell : .ofComplete (negatedCell ts) =
    grammar.answer (.map (fun (tests, _) => Cell.tests true tests)
      (.pair (.delimited (.map (fun _ => ()) (.pair (.keyword .not) (.delimiter .openParen)))
        (.rule .tests) (.delimiter .closeParen)) .endOfInput)) ts := by
  unfold negatedCell
  split
  case h_1 rest =>
    refine answer_complete (p := .delimited
      (.map (fun _ => ()) (.pair (.keyword .not) (.delimiter .openParen)))
      (.rule .tests) (.delimiter .closeParen)) ?_
    simp only [answer_delimited, answer_map, answer_pair, answer_keyword_cons, Answer.andThen_ok,
      answer_delimiter_cons, Answer.map_ok, Answer.map_andThen, Answer.map_map]
    refine Reply.answer_andThen answer_cellTests fun tests us _ => ?_
    rw [Reply.answer_widen, Reply.answer_map, answer_delimiter]
  case h_2 rest hrest =>
    rw [answer_map, answer_pair, answer_delimited, answer_map, answer_pair, answer_keyword_cons,
      Answer.andThen_ok, answer_delimiter_of_ne fun us => hrest us]
    rfl
  case h_3 hopen hnot =>
    rw [answer_map, answer_pair, answer_delimited, answer_map, answer_pair,
      answer_keyword_of_ne fun us => hnot us]
    rfl

theorem answer_plainCell : .ofComplete (plainCell ts) =
    grammar.answer (.map (fun (tests, _) => Cell.tests false tests)
      (.pair (.rule .tests) .endOfInput)) ts := by
  refine answer_complete ?_
  rw [Reply.answer_map, answer_cellTests]

theorem answer_cell : .ofComplete (cell ts) = grammar.answer (.rule .cell) ts := by
  rw [answer_rule, Parser.ofRule, answer_either, answer_either, ← answer_anyCell,
    ← answer_negatedCell, ← answer_plainCell, cell]
  cases anyCell ts <;> cases negatedCell ts <;> cases plainCell ts <;>
    simp only [orElse, Failure.furthest, Answer.ofComplete, Answer.furthest]
  -- The furthest of three failures is found two by two, from the front or from the back.
  case error.error.error f g k =>
    grind

end Cells

end Rulebook.Syntax
