import Rulebook.Proofs.Syntax.PromptGrammar
import Rulebook.Proofs.Syntax.RoundTrip

/-!
What the grammar reads as an expression is a phrase: behind each sign of a division stands the start
of an operand, and tokens that go on at no level may follow without a change.
-/

namespace Rulebook.Syntax

open Reading (ofRule)

-- No operator but a minus sign comes first.
def StartsOperand (ts : List Token) : Prop :=
  ∀ o rest, ts = .operator o :: rest → o = .minus

-- The tokens in front of `rest`, one by one.
inductive Steps : List Token → List Token → Prop
  | refl (ts : List Token) : Steps ts ts
  | cons {t : Token} {ts rest : List Token} (ht : t = .operator .divide → StartsOperand ts)
    (h : Steps ts rest) : Steps (t :: ts) rest

variable {α β : Type} {n m n' m' : Nat} {us ts rest : List Token} {t : Token} {value : α}
  {left : List Token → Prop}

theorem Steps.trans {ts' : List Token} (h : Steps ts rest) (h' : Steps rest ts') :
    Steps ts ts' := by
  induction h with
  | refl => exact h'
  | cons ht _ ih => exact .cons ht (ih h')

theorem Reply.Reads.of_andThen {r : Reply α n} {result : β}
    {f : (value : α) → (rest : List Token) → rest.length < n → Reply β m}
    (h : (r.andThen f).Reads result rest) : ∃ value rest', r.Reads value rest' := by
  cases r with
  | ok value rest' hlt => exact ⟨value, rest', hlt, rfl⟩
  | fail failure =>
    obtain ⟨_, h⟩ := h
    cases h

theorem Reply.rejects_of_result {r : Reply α n} {expected : Option Expected} {rule : Option Rule}
    (h : r.result = .error ⟨ts, expected, rule⟩) : r.Rejects ts := by
  cases r with
  | ok => cases h
  | fail failure =>
    cases h
    exact ⟨_, rfl, rfl⟩

-- A rule on `ts`, with the reply `r`, and on `ts ++ us`, with the reply `r'`. If tokens are `left`
-- as they should be, the second reading is the first one.
def Phrased (left : List Token → Prop) (us ts : List Token) (r : Reply α n) (r' : Reply α m) :
    Prop :=
  match r with
  | .ok value rest _ => Steps ts rest ∧ (left rest → r'.Reads value (rest ++ us))
  | .fail _ => True

namespace Phrased

variable {r : Reply α n} {r' : Reply α n'}

theorem of_reads (hr : Phrased left us ts r r') (h : r.Reads value rest) :
    Steps ts rest ∧ (left rest → r'.Reads value (rest ++ us)) := by
  obtain ⟨_, rfl⟩ := h
  exact hr

-- The first rule leaves the tokens as they should be if the second one can go on with them.
theorem followed {left' : List Token → Prop}
    {f : (value : α) → (rest : List Token) → rest.length < n → Reply β m}
    {f' : (value : α) → (rest : List Token) → rest.length < n' → Reply β m'}
    (hr : Phrased left us ts r r')
    (hleft : ∀ value rest h result rest', (f value rest h).Reads result rest' → left rest)
    (hf : ∀ value rest h h', Phrased left' us rest (f value rest h) (f' value (rest ++ us) h')) :
    Phrased left' us ts (r.andThen f) (r'.andThen f') := by
  cases r with
  | fail failure => trivial
  | ok value rest hlt =>
    obtain ⟨hsteps, hread⟩ := hr
    change Phrased left' us ts (f value rest hlt) _
    cases hresult : f value rest hlt with
    | fail failure => trivial
    | ok result rest' hlt' =>
      obtain ⟨hlt', hr'⟩ := hread (hleft value rest hlt result rest' ⟨_, hresult⟩)
      have hnext := hf value rest hlt hlt'
      rw [hresult] at hnext
      rw [hr']
      exact ⟨hsteps.trans hnext.1, hnext.2⟩

theorem andThen {f : (value : α) → (rest : List Token) → rest.length < n → Reply β m}
    {f' : (value : α) → (rest : List Token) → rest.length < n' → Reply β m'}
    (hr : Phrased Anywhere us ts r r')
    (hf : ∀ value rest h h', Phrased left us rest (f value rest h) (f' value (rest ++ us) h')) :
    Phrased left us ts (r.andThen f) (r'.andThen f') :=
  hr.followed (fun _ _ _ _ _ _ => trivial) hf

theorem map {f : α → β} (hr : Phrased left us ts r r') :
    Phrased left us ts (r.map f) (r'.map f) := by
  cases r with
  | fail failure => trivial
  | ok value rest hlt => exact hr.imp_right fun h hleft => (h hleft).map

theorem widen {h : n ≤ m} {h' : n' ≤ m'} (hr : Phrased left us ts r r') :
    Phrased left us ts (r.widen h) (r'.widen h') := by
  cases r with
  | fail failure => trivial
  | ok value rest hlt => exact hr.imp_right fun h hleft => (h hleft).widen

theorem behind (hr : Phrased left us ts r r')
    (ht : t = .operator .divide → (∃ value rest, r.Reads value rest) → StartsOperand ts) :
    Phrased left us (t :: ts) r r' := by
  cases r with
  | fail failure => trivial
  | ok value rest hlt =>
    exact hr.imp_left (Steps.cons fun heq => ht heq ⟨value, rest, hlt, rfl⟩)

theorem ok {h : rest.length < n} {h' : (rest ++ us).length < n'} (hsteps : Steps ts rest) :
    Phrased left us ts (.ok value rest h : Reply α n) (.ok value (rest ++ us) h' : Reply α n') :=
  ⟨hsteps, fun _ => ⟨h', rfl⟩⟩

-- Nothing is read from nothing.
theorem of_ne_nil {r : Reply α ts.length} (h : ts ≠ [] → Phrased left us ts r r') :
    Phrased left us ts r r' := by
  cases ts with
  | nil =>
    cases r with
    | fail failure => trivial
    | ok value rest hlt => exact absurd hlt (Nat.not_lt_zero _)
  | cons t ts => exact h (List.cons_ne_nil t ts)

theorem of_nil {r : Reply α ([] : List Token).length}
    {f : (value : α) → (rest : List Token) → rest.length < ([] : List Token).length → Reply β m}
    {r' : Reply β m'} : Phrased left us ts (r.andThen f) r' := by
  cases r with
  | fail failure => trivial
  | ok value rest hlt => exact absurd hlt (Nat.not_lt_zero _)

end Phrased

-- An item with others behind it.
theorem Phrased.listed {r : Reply (List α) n} {r' : Reply (List α) n'} {s : Reply (List α) m'}
    {h : n ≤ m} (hsteps : Steps ts rest) (hr : Phrased left us rest r r')
    (hs : ∀ values others, r'.Reads values others → s.Reads (value :: values) others) :
    Phrased left us ts ((r.map (value :: ·)).widen h) s := by
  cases r with
  | fail failure => trivial
  | ok values others hlt =>
    exact ⟨hsteps.trans hr.1, fun hleft => hs values _ (hr.2 hleft)⟩

-- A rule that takes nothing of the tokens takes nothing of them with others behind.
theorem Prompt.rejects_append {bound : List Token → Nat} {failure : Failure}
    {rule : (ts : List Token) → Reply α (bound ts)} {start : List Token} {stop : List Token → Prop}
    (h : Prompt (ofRule rule) start stop (ts.length + 1)) (hfail : rule ts = .fail failure)
    (hnone : ¬failure.rest.length < ts.length) (hne : ts ≠ []) :
    (rule (ts ++ us)).Rejects (ts ++ us) := by
  obtain ⟨front, rest, verdict, rfl, hverdict, -⟩ := h.on ts (Nat.lt_succ_self _)
  have hfirst : (rule (front ++ rest)).result = verdict.before rest := hverdict rest rfl
  rw [hfail] at hfirst
  cases verdict with
  | yields value => cases hfirst
  | fails expected rule =>
    cases hfirst
    have hlength : ¬rest.length < front.length + rest.length := List.length_append ▸ hnone
    have hfront : front = [] := List.eq_nil_of_length_eq_zero (by omega)
    subst hfront
    have hhead : SameHead (rest ++ us) rest := List.head?_append_of_ne_nil rest hne
    exact Reply.rejects_of_result (hverdict _ hhead)

theorem ne_nil_of_delimiter {d : Delimiter} {rule : Option Rule} {result : α}
    {rest' : List Token} {f : Unit → (rest' : List Token) → rest'.length < rest.length → Reply α m}
    (h : ((delimiter d rule rest).andThen f).Reads result rest') : rest ≠ [] := by
  rintro rfl
  obtain ⟨_, h⟩ := h
  cases h

theorem ne_cons_append (hne : ts ≠ []) (h : ∀ rest, ts ≠ t :: rest) (rest : List Token) :
    ts ++ us ≠ t :: rest := by
  cases ts with
  | nil => exact absurd rfl hne
  | cons u ts =>
    intro heq
    cases heq
    exact h ts rfl

-- Rules of one token.

theorem phrased_token {accept : Token → Bool} {expected : Token} {rule : Option Rule}
    (h : accept (.operator .divide) = false) :
    Phrased left us ts (token ts accept expected rule) (token (ts ++ us) accept expected rule) := by
  cases ts with
  | nil => trivial
  | cons t ts =>
    rw [List.cons_append, token, token]
    split
    case isTrue ht =>
      refine .ok (.cons ?_ (.refl ts))
      rintro rfl
      cases h.symm.trans ht
    case isFalse => trivial

theorem phrased_keyword (k : Keyword) :
    Phrased left us ts (keyword k ts) (keyword k (ts ++ us)) :=
  phrased_token rfl

theorem phrased_delimiter (d : Delimiter) (rule : Option Rule) :
    Phrased left us ts (delimiter d rule ts) (delimiter d rule (ts ++ us)) :=
  phrased_token rfl

theorem phrased_range (rule : Option Rule) :
    Phrased left us ts (operator .range rule ts) (operator .range rule (ts ++ us)) :=
  phrased_token rfl

theorem phrased_identifier : Phrased left us ts (identifier ts) (identifier (ts ++ us)) := by
  rw [identifier.eq_def]
  split
  case h_1 name ts => exact .ok (.cons nofun (.refl ts))
  case h_2 => trivial

theorem phrased_intervalEnd : Phrased left us ts (intervalEnd ts) (intervalEnd (ts ++ us)) := by
  rw [intervalEnd.eq_def]
  split
  case h_1 ts => exact .ok (.cons nofun (.refl ts))
  case h_2 ts => exact .ok (.cons nofun (.refl ts))
  case h_3 => trivial

theorem phrased_typeName : Phrased left us ts (typeName ts) (typeName (ts ++ us)) := by
  rw [typeName.eq_def]
  split
  case h_1 name ts => exact .ok (.cons nofun (.refl ts))
  case h_2 ts => exact .ok (.cons nofun (.refl ts))
  case h_3 => trivial

theorem phrased_contextKey : Phrased left us ts (contextKey ts) (contextKey (ts ++ us)) := by
  rw [contextKey.eq_def]
  split
  case h_1 name ts => exact .ok (.cons nofun (.refl ts))
  case h_2 s ts => exact .ok (.cons nofun (.refl ts))
  case h_3 => trivial

-- An operand starts with no operator that stands between operands.
theorem startsOperand_of_power {e : Expr} (h : (power ts).Reads e rest) : StartsOperand ts := by
  rintro o others rfl
  by_contra ho
  exact (power_rejects (primary_rejects_operator o) (by simpa using ho)).not_reads h

theorem startsOperand_of_chain {c : Chain} {op : BinaryOp} {e : Expr}
    (hop : c.op? (.operator .divide) = some op) (h : (operand c ts).Reads e rest) :
    StartsOperand ts := by
  cases c with
  | multiplicative =>
    rw [operand] at h
    exact startsOperand_of_power h
  | _ => cases hop

-- The recursion is that of the grammar, rule by rule and with its measures. A list is followed by a
-- closing sign, so there are tokens left behind it.

mutual

theorem phrased_expression (hus : Stops .whole us) (ts : List Token) :
    Phrased Anywhere us ts (expression ts) (expression (ts ++ us)) := by
  rw [expression, expression]
  exact phrased_chain hus .disjunction ts
termination_by 20 * ts.length + 16
decreasing_by simp only [Chain.rank]; omega

theorem phrased_chain (hus : Stops .whole us) (c : Chain) (ts : List Token) :
    Phrased Anywhere us ts (chain c ts) (chain c (ts ++ us)) := by
  rw [chain, chain]
  exact (phrased_operand hus c ts).andThen fun left rest _ _ =>
    (phrased_chainTail hus c left rest).widen
termination_by 20 * ts.length + c.rank
decreasing_by all_goals cases c <;> simp only [Chain.rank] <;> omega

theorem phrased_operand (hus : Stops .whole us) (c : Chain) (ts : List Token) :
    Phrased Anywhere us ts (operand c ts) (operand c (ts ++ us)) := by
  cases c with
  | disjunction => rw [operand, operand]; exact phrased_chain hus .conjunction ts
  | conjunction => rw [operand, operand]; exact phrased_negation hus ts
  | additive => rw [operand, operand]; exact phrased_chain hus .multiplicative ts
  | multiplicative => rw [operand, operand]; exact phrased_power hus ts
termination_by 20 * ts.length + (c.rank - 1)
decreasing_by all_goals simp only [Chain.rank]; omega

theorem phrased_chainTail (hus : Stops .whole us) (c : Chain) (left : Expr) (ts : List Token) :
    Phrased Anywhere us ts (chainTail c left ts) (chainTail c left (ts ++ us)) := by
  match ts with
  | [] =>
    rw [chainTail]
    exact ⟨.refl [], fun _ => chainTail_of_stops (hus.mono (by cases c <;> decide))⟩
  | t :: rest =>
    rw [List.cons_append, chainTail, chainTail]
    split
    case h_1 => exact .ok (.refl _)
    case h_2 op hop =>
      refine .behind ((phrased_operand hus c rest).andThen fun right rest' _ _ =>
        (phrased_chainTail hus c (.binary op left right) rest').widen) ?_
      rintro rfl ⟨e, rest', hread⟩
      obtain ⟨right, others, hright⟩ := hread.of_andThen
      exact startsOperand_of_chain hop hright
termination_by 20 * ts.length
decreasing_by all_goals cases c <;> simp only [List.length_cons, Chain.rank] <;> omega

theorem phrased_negation (hus : Stops .whole us) (ts : List Token) :
    Phrased Anywhere us ts (negation ts) (negation (ts ++ us)) := by
  refine .of_ne_nil fun hne => ?_
  rw [negation.eq_def ts]
  split
  case h_1 rest =>
    rw [List.cons_append, negation]
    exact (phrased_negation hus rest).map.widen.behind nofun
  case h_2 hnot =>
    rw [negation.eq_2 _ (ne_cons_append hne hnot)]
    exact phrased_comparison hus ts
termination_by 20 * ts.length + 11

theorem phrased_sum (hus : Stops .whole us) (ts : List Token) :
    Phrased Anywhere us ts (sum ts) (sum (ts ++ us)) := by
  rw [sum, sum]
  exact phrased_chain hus .additive ts
termination_by 20 * ts.length + 9
decreasing_by simp only [Chain.rank]; omega

theorem phrased_comparison (hus : Stops .whole us) (ts : List Token) :
    Phrased Anywhere us ts (comparison ts) (comparison (ts ++ us)) := by
  rw [comparison, comparison]
  exact (phrased_sum hus ts).andThen fun left rest _ _ =>
    (phrased_comparisonTail hus left rest).widen
termination_by 20 * ts.length + 10

theorem phrased_comparisonTail (hus : Stops .whole us) (left : Expr) (ts : List Token) :
    Phrased Anywhere us ts (comparisonTail left ts) (comparisonTail left (ts ++ us)) := by
  rw [comparisonTail.eq_def left ts]
  split
  case h_1 rest =>
    rw [List.cons_append, comparisonTail]
    refine .behind ?_ nofun
    refine (phrased_sum hus rest).andThen fun lower rest _ _ => ?_
    refine (phrased_keyword .and).andThen fun _ rest _ _ => ?_
    exact (phrased_sum hus rest).map.widen
  case h_2 rest =>
    rw [List.cons_append, comparisonTail]
    refine .behind ?_ nofun
    exact (phrased_keyword .of).andThen fun _ rest _ _ => phrased_typeName.map.widen
  case h_3 t rest hbetween hinstance =>
    rw [List.cons_append, comparisonTail.eq_3 _ _ _ hbetween hinstance]
    split
    case h_1 => exact .ok (.refl _)
    case h_2 op hop =>
      refine .behind (phrased_sum hus rest).map.widen ?_
      rintro rfl
      cases hop
  case h_4 => exact ⟨.refl [], fun _ => comparisonTail_of_stops (hus.mono (by decide))⟩
termination_by 20 * ts.length
decreasing_by all_goals subst_vars; simp only [List.length_cons]; omega

theorem phrased_power (hus : Stops .whole us) (ts : List Token) :
    Phrased Anywhere us ts (power ts) (power (ts ++ us)) := by
  rw [power, power]
  exact (phrased_negative hus ts).andThen fun base rest _ _ =>
    (phrased_powerTail hus base rest).widen
termination_by 20 * ts.length + 4

theorem phrased_powerTail (hus : Stops .whole us) (base : Expr) (ts : List Token) :
    Phrased Anywhere us ts (powerTail base ts) (powerTail base (ts ++ us)) := by
  rw [powerTail.eq_def base ts]
  split
  case h_1 rest =>
    rw [List.cons_append, powerTail]
    exact (phrased_power hus rest).map.widen.behind nofun
  case h_2 hpower =>
    cases ts with
    | nil => exact ⟨.refl [], fun _ => powerTail_of_stops (hus.mono (by decide))⟩
    | cons t rest =>
      rw [powerTail.eq_2 _ _ (ne_cons_append (List.cons_ne_nil t rest) hpower)]
      exact .ok (.refl _)
termination_by 20 * ts.length
decreasing_by all_goals subst_vars; simp only [List.length_cons]; omega

theorem phrased_negative (hus : Stops .whole us) (ts : List Token) :
    Phrased Anywhere us ts (negative ts) (negative (ts ++ us)) := by
  refine .of_ne_nil fun hne => ?_
  rw [negative.eq_def ts]
  split
  case h_1 rest =>
    rw [List.cons_append, negative]
    exact (phrased_negative hus rest).map.widen.behind nofun
  case h_2 hminus =>
    rw [negative.eq_2 _ (ne_cons_append hne hminus)]
    exact phrased_postfixed hus ts
termination_by 20 * ts.length + 3

theorem phrased_postfixed (hus : Stops .whole us) (ts : List Token) :
    Phrased Anywhere us ts (postfixed ts) (postfixed (ts ++ us)) := by
  rw [postfixed, postfixed]
  exact (phrased_primary hus ts).andThen fun base rest _ _ => (phrased_suffixes hus base rest).widen
termination_by 20 * ts.length + 2

theorem phrased_suffixes (hus : Stops .whole us) (base : Expr) (ts : List Token) :
    Phrased Anywhere us ts (suffixes base ts) (suffixes base (ts ++ us)) := by
  rw [suffixes.eq_def base ts]
  split
  case h_1 rest =>
    rw [List.cons_append, suffixes]
    refine .behind ?_ nofun
    refine phrased_identifier.andThen fun key rest _ _ => ?_
    exact (phrased_suffixes hus (base.member key) rest).widen
  case h_2 rest =>
    rw [List.cons_append, suffixes]
    refine .behind ?_ nofun
    refine (phrased_expression hus rest).andThen fun predicate rest _ _ => ?_
    refine (phrased_delimiter .closeBracket _).andThen fun _ rest _ _ => ?_
    exact (phrased_suffixes hus (.filter base predicate) rest).widen
  case h_3 hdot hbracket =>
    cases ts with
    | nil => exact ⟨.refl [], fun _ => suffixes_of_stops (hus.mono (by decide))⟩
    | cons t rest =>
      have hne := List.cons_ne_nil t rest
      rw [suffixes.eq_3 _ _ (ne_cons_append hne hdot) (ne_cons_append hne hbracket)]
      exact .ok (.refl _)
termination_by 20 * ts.length
decreasing_by all_goals subst_vars; simp only [List.length_cons]; omega

theorem phrased_primary (hus : Stops .whole us) (ts : List Token) :
    Phrased Anywhere us ts (primary ts) (primary (ts ++ us)) := by
  rw [primary.eq_def ts]
  split
  case h_1 rest =>
    rw [List.cons_append, primary]
    refine .behind ?_ nofun
    refine (phrased_expression hus rest).andThen fun condition rest _ _ => ?_
    refine (phrased_keyword .then).andThen fun _ rest _ _ => ?_
    refine (phrased_expression hus rest).andThen fun yes rest _ _ => ?_
    refine (phrased_keyword .else).andThen fun _ rest _ _ => ?_
    exact (phrased_expression hus rest).map.widen
  case h_2 rest =>
    rw [List.cons_append, primary]
    refine .behind ?_ nofun
    refine phrased_identifier.andThen fun name rest _ _ => ?_
    refine (phrased_keyword .in).andThen fun _ rest _ _ => ?_
    refine (phrased_expression hus rest).andThen fun source rest _ _ => ?_
    refine (phrased_keyword .return).andThen fun _ rest _ _ => ?_
    exact (phrased_expression hus rest).map.widen
  case h_3 rest =>
    rw [List.cons_append, primary]
    exact (phrased_quantified hus .some rest).widen.behind nofun
  case h_4 rest =>
    rw [List.cons_append, primary]
    exact (phrased_quantified hus .every rest).widen.behind nofun
  case h_5 rest =>
    rw [List.cons_append, primary]
    refine .behind ?_ nofun
    exact (phrased_expression hus rest).andThen fun inner rest _ _ =>
      (phrased_parenTail hus inner rest).widen
  case h_6 rest =>
    rw [List.cons_append, List.cons_append, primary]
    exact .ok (.cons nofun (.cons nofun (.refl rest)))
  case h_7 rest hbracket =>
    cases rest with
    | nil => exact .of_nil
    | cons t others =>
      rw [List.cons_append, primary.eq_7 _ (ne_cons_append (List.cons_ne_nil t others) hbracket)]
      refine .behind ?_ nofun
      exact (phrased_expression hus (t :: others)).andThen fun first rest _ _ =>
        (phrased_bracketTail hus first rest).widen
  case h_8 rest =>
    rw [List.cons_append, primary]
    refine .behind ?_ nofun
    refine (phrased_expression hus rest).andThen fun lower rest _ _ => ?_
    refine (phrased_range _).andThen fun _ rest _ _ => ?_
    exact (phrased_rangeTail hus lower false rest).widen
  case h_9 rest =>
    rw [List.cons_append, primary]
    refine .behind ?_ nofun
    refine (phrased_entries hus rest).followed (fun _ _ _ _ _ => ne_nil_of_delimiter)
      fun entries rest _ _ => ?_
    exact (phrased_delimiter .closeBrace _).andThen fun _ rest _ _ => .ok (.refl rest)
  case h_10 name rest =>
    rw [List.cons_append, List.cons_append, primary]
    refine .behind (.behind ?_ nofun) nofun
    refine (phrased_arguments hus rest).followed (fun _ _ _ _ _ => ne_nil_of_delimiter)
      fun arguments rest _ _ => ?_
    exact (phrased_delimiter .closeParen _).andThen fun _ rest _ _ => .ok (.refl rest)
  case h_11 name rest hparen =>
    have hparen' : ∀ others, rest ++ us ≠ .delimiter .openParen :: others := by
      cases rest with
      | nil =>
        rintro others rfl
        exact absurd (hus .primary rfl) (by decide)
      | cons t rest => exact ne_cons_append (List.cons_ne_nil t rest) hparen
    rw [List.cons_append, primary.eq_11 name _ hparen']
    exact .ok (.cons nofun (.refl rest))
  case h_12 t rest hif hfor hsome hevery hparen _ hbracket hclose hbrace _ hname =>
    rw [List.cons_append, primary.eq_12 t _ hif hfor hsome hevery hparen
      (fun _ ht => absurd ht hbracket) hbracket hclose hbrace
      (fun name _ ht => absurd ht (hname name)) hname]
    split
    case h_1 l hl =>
      refine .ok (.cons ?_ (.refl rest))
      rintro rfl
      cases hl
    case h_2 => trivial
  case h_13 => trivial
termination_by 20 * ts.length + 1
decreasing_by all_goals subst_vars; simp only [List.length_cons] at *; omega

theorem phrased_quantified (hus : Stops .whole us) (quantifier : Quantifier) (ts : List Token) :
    Phrased Anywhere us ts (quantified quantifier ts) (quantified quantifier (ts ++ us)) := by
  rw [quantified, quantified]
  refine phrased_identifier.andThen fun name rest _ _ => ?_
  refine (phrased_keyword .in).andThen fun _ rest _ _ => ?_
  refine (phrased_expression hus rest).andThen fun source rest _ _ => ?_
  refine (phrased_keyword .satisfies).andThen fun _ rest _ _ => ?_
  exact (phrased_expression hus rest).map.widen
termination_by 20 * ts.length

theorem phrased_rangeTail (hus : Stops .whole us) (lower : Expr) (lowerIncluded : Bool)
    (ts : List Token) : Phrased Anywhere us ts (rangeTail lower lowerIncluded ts)
      (rangeTail lower lowerIncluded (ts ++ us)) := by
  rw [rangeTail, rangeTail]
  exact (phrased_expression hus ts).andThen fun upper rest _ _ => phrased_intervalEnd.map.widen
termination_by 20 * ts.length + 17

theorem phrased_parenTail (hus : Stops .whole us) (inner : Expr) (ts : List Token) :
    Phrased Anywhere us ts (parenTail inner ts) (parenTail inner (ts ++ us)) := by
  rw [parenTail.eq_def inner ts]
  split
  case h_1 rest =>
    rw [List.cons_append, parenTail]
    exact (phrased_rangeTail hus inner false rest).widen.behind nofun
  case h_2 rest =>
    rw [List.cons_append, parenTail]
    exact .ok (.cons nofun (.refl rest))
  case h_3 => trivial
termination_by 20 * ts.length + 1
decreasing_by all_goals subst_vars; simp only [List.length_cons]; omega

theorem phrased_bracketTail (hus : Stops .whole us) (first : Expr) (ts : List Token) :
    Phrased Anywhere us ts (bracketTail first ts) (bracketTail first (ts ++ us)) := by
  rw [bracketTail.eq_def first ts]
  split
  case h_1 rest =>
    rw [List.cons_append, bracketTail]
    exact (phrased_rangeTail hus first true rest).widen.behind nofun
  case h_2 rest =>
    rw [List.cons_append, bracketTail]
    exact .ok (.cons nofun (.refl rest))
  case h_3 rest =>
    rw [List.cons_append, bracketTail]
    refine (phrased_commaItems hus (.delimiter .comma :: rest)).followed
      (fun _ _ _ _ _ => ne_nil_of_delimiter) fun items rest _ _ => ?_
    exact (phrased_delimiter .closeBracket _).andThen fun _ rest _ _ => .ok (.refl rest)
  case h_4 => trivial
termination_by 20 * ts.length + 1
decreasing_by all_goals subst_vars; simp only [List.length_cons]; omega

theorem phrased_commaItems (hus : Stops .whole us) (ts : List Token) :
    Phrased (· ≠ []) us ts (commaItems ts) (commaItems (ts ++ us)) := by
  rw [commaItems.eq_def ts]
  split
  case h_1 rest =>
    rw [List.cons_append, commaItems]
    refine .behind ?_ nofun
    exact (phrased_expression hus rest).andThen fun item rest _ _ =>
      (phrased_commaItems hus rest).map.widen
  case h_2 hcomma =>
    refine ⟨.refl ts, fun hne => ?_⟩
    rw [commaItems.eq_2 _ (ne_cons_append hne hcomma)]
    exact ⟨_, rfl⟩
termination_by 20 * ts.length
decreasing_by all_goals subst_vars; simp only [List.length_cons]; omega

theorem phrased_arguments (hus : Stops .whole us) (ts : List Token) :
    Phrased (· ≠ []) us ts (arguments ts) (arguments (ts ++ us)) := by
  rw [arguments]
  have hfirst := phrased_expression hus ts
  split
  case h_1 first rest _ heq =>
    rw [heq] at hfirst
    obtain ⟨hsteps, hread⟩ := hfirst
    exact (phrased_commaItems hus rest).listed hsteps
      fun _ _ => arguments_of_reads (hread trivial)
  case h_2 failure heq =>
    split
    case isTrue => trivial
    case isFalse hnone =>
      have hprompt := (promptExpressions (ts.length + 1)).whole
      exact ⟨.refl ts, fun hne => arguments_of_rejects (hprompt.rejects_append heq hnone hne)⟩
termination_by 20 * ts.length + 17

theorem phrased_entry (hus : Stops .whole us) (ts : List Token) :
    Phrased Anywhere us ts (entry ts) (entry (ts ++ us)) := by
  rw [entry, entry]
  refine phrased_contextKey.andThen fun key rest _ _ => ?_
  refine (phrased_delimiter .colon _).andThen fun _ rest _ _ => ?_
  exact (phrased_expression hus rest).map.widen
termination_by 20 * ts.length

theorem phrased_commaEntries (hus : Stops .whole us) (ts : List Token) :
    Phrased (· ≠ []) us ts (commaEntries ts) (commaEntries (ts ++ us)) := by
  rw [commaEntries.eq_def ts]
  split
  case h_1 rest =>
    rw [List.cons_append, commaEntries]
    refine .behind ?_ nofun
    exact (phrased_entry hus rest).andThen fun item rest _ _ =>
      (phrased_commaEntries hus rest).map.widen
  case h_2 hcomma =>
    refine ⟨.refl ts, fun hne => ?_⟩
    rw [commaEntries.eq_2 _ (ne_cons_append hne hcomma)]
    exact ⟨_, rfl⟩
termination_by 20 * ts.length
decreasing_by all_goals subst_vars; simp only [List.length_cons]; omega

theorem phrased_entries (hus : Stops .whole us) (ts : List Token) :
    Phrased (· ≠ []) us ts (entries ts) (entries (ts ++ us)) := by
  rw [entries]
  have hfirst := phrased_entry hus ts
  split
  case h_1 first rest _ heq =>
    rw [heq] at hfirst
    obtain ⟨hsteps, hread⟩ := hfirst
    exact (phrased_commaEntries hus rest).listed hsteps
      fun _ _ => entries_of_reads (hread trivial)
  case h_2 failure heq =>
    split
    case isTrue => trivial
    case isFalse hnone =>
      have hprompt := prompt_entry (promptExpressions (ts.length + 1)).whole
      exact ⟨.refl ts, fun hne => entries_of_rejects (hprompt.rejects_append heq hnone hne)⟩
termination_by 20 * ts.length + 1

end

theorem reads_of_completeExpression {e : Expr} (h : completeExpression ts = .ok e) :
    (expression ts).Reads e [] := by
  rw [completeExpression, complete.eq_def] at h
  split at h
  case h_1 heq =>
    cases h
    exact ⟨_, heq⟩
  all_goals cases h

-- An expression is read off the front of a longer list where what follows does not go on with it.
theorem expression_reads_append {e : Expr} (hus : Stops .whole us)
    (h : completeExpression ts = .ok e) : (expression (ts ++ us)).Reads e us :=
  ((phrased_expression hus ts).of_reads (reads_of_completeExpression h)).2 trivial

theorem steps_of_completeExpression {e : Expr} (h : completeExpression ts = .ok e) :
    Steps ts [] :=
  have stops_nil : Stops .whole [] := trivial
  ((phrased_expression stops_nil ts).of_reads (reads_of_completeExpression h)).1

end Rulebook.Syntax
