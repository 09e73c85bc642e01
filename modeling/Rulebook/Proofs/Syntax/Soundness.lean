import Rulebook.Proofs.Syntax.Canonical
import Rulebook.Syntax.Grammar

/-!
Every expression that the grammar reads from lexical tokens is canonical, rule by rule.
-/

namespace Rulebook.Syntax

-- A success gives a value of which `P` holds, and leaves lexical tokens.
def Reply.Ensures {α : Type} {n : Nat} (P : α → Prop) : Reply α n → Prop
  | .ok value rest _ => P value ∧ Lexical rest
  | .fail _ => True

namespace Reply.Ensures

variable {α β : Type} {n m : Nat} {P : α → Prop} {Q : β → Prop} {r : Reply α n}

theorem andThen {f : (value : α) → (rest : List Token) → rest.length < n → Reply β m}
    (hr : r.Ensures P) (hf : ∀ value rest h, P value → Lexical rest → (f value rest h).Ensures Q) :
    (r.andThen f).Ensures Q := by
  cases r with
  | ok value rest h => exact hf value rest h hr.1 hr.2
  | fail failure => trivial

theorem map {f : α → β} (hr : r.Ensures P) (hf : ∀ value, P value → Q (f value)) :
    (r.map f).Ensures Q := by
  cases r with
  | ok value rest h => exact ⟨hf value hr.1, hr.2⟩
  | fail failure => trivial

theorem widen {h : n ≤ m} (hr : r.Ensures P) : (r.widen h).Ensures P := by
  cases r with
  | ok value rest h => exact hr
  | fail failure => trivial

end Reply.Ensures

variable {t : Token} {ts : List Token}

theorem ensures_token {matches? : Token → Bool} {expected : Token} {rule : Option Rule}
    (h : Lexical ts) : (token ts matches? expected rule).Ensures fun _ => True := by
  unfold token
  split
  · split
    · exact ⟨trivial, h.tail⟩
    · trivial
  · trivial

theorem ensures_keyword {k : Keyword} (h : Lexical ts) : (keyword k ts).Ensures fun _ => True :=
  ensures_token h

theorem ensures_delimiter {d : Delimiter} {rule : Option Rule} (h : Lexical ts) :
    (delimiter d rule ts).Ensures fun _ => True :=
  ensures_token h

theorem ensures_operator {o : Operator} {rule : Option Rule} (h : Lexical ts) :
    (operator o rule ts).Ensures fun _ => True :=
  ensures_token h

theorem ensures_identifier (h : Lexical ts) : (identifier ts).Ensures (isName · = true) := by
  unfold identifier
  split
  · exact ⟨h _ List.mem_cons_self, h.tail⟩
  · trivial

theorem ensures_intervalEnd (h : Lexical ts) : (intervalEnd ts).Ensures fun _ => True := by
  unfold intervalEnd
  split
  · exact ⟨trivial, h.tail⟩
  · exact ⟨trivial, h.tail⟩
  · trivial

theorem ensures_typeName (h : Lexical ts) : (typeName ts).Ensures (isTypeName · = true) := by
  unfold typeName
  split
  · exact ⟨Bool.or_eq_true_iff.2 (.inl (h _ List.mem_cons_self)), h.tail⟩
  · exact ⟨rfl, h.tail⟩
  · trivial

theorem ensures_contextKey (h : Lexical ts) : (contextKey ts).Ensures fun _ => True := by
  unfold contextKey
  split
  · exact ⟨trivial, h.tail⟩
  · exact ⟨trivial, h.tail⟩
  · trivial

theorem isCanonical_literal {l : Literal} (ht : t.isLexical = true) (h : literal? t = some l) :
    (Expr.literal l).isCanonical = true := by
  unfold literal? at h
  split at h <;> cases h <;> try rfl
  exact (Bool.and_eq_true_iff.1 ht).2

theorem isCanonical_unary {op : UnaryOp} {e : Expr} (h : e.isCanonical = true)
    (hop : op ≠ .negate) : (Expr.unary op e).isCanonical = true := by
  simp [Expr.isCanonical, h, hop]

-- The recursion is that of the grammar, rule by rule and with its measures.

mutual

theorem ensures_expression (ts : List Token) (h : Lexical ts) :
    (expression ts).Ensures (·.isCanonical = true) := by
  rw [expression]
  exact ensures_chain .disjunction ts h
termination_by 20 * ts.length + 16
decreasing_by simp only [Chain.rank]; omega

theorem ensures_chain (c : Chain) (ts : List Token) (h : Lexical ts) :
    (chain c ts).Ensures (·.isCanonical = true) := by
  rw [chain]
  refine (ensures_operand c ts h).andThen fun left rest _ hleft hrest => ?_
  exact (ensures_chainTail c left rest hleft hrest).widen
termination_by 20 * ts.length + c.rank
decreasing_by all_goals cases c <;> simp only [Chain.rank] <;> omega

theorem ensures_operand (c : Chain) (ts : List Token) (h : Lexical ts) :
    (operand c ts).Ensures (·.isCanonical = true) := by
  cases c with
  | disjunction => rw [operand]; exact ensures_chain .conjunction ts h
  | conjunction => rw [operand]; exact ensures_negation ts h
  | additive => rw [operand]; exact ensures_chain .multiplicative ts h
  | multiplicative => rw [operand]; exact ensures_power ts h
termination_by 20 * ts.length + (c.rank - 1)
decreasing_by all_goals simp only [Chain.rank]; omega

theorem ensures_chainTail (c : Chain) (left : Expr) (ts : List Token)
    (hleft : left.isCanonical = true) (h : Lexical ts) :
    (chainTail c left ts).Ensures (·.isCanonical = true) := by
  match ts, h with
  | [], h => rw [chainTail]; exact ⟨hleft, h⟩
  | t :: ts, h =>
    rw [chainTail]
    split
    · exact ⟨hleft, h⟩
    · refine (ensures_operand c ts h.tail).andThen fun right rest _ hright hrest => ?_
      exact (ensures_chainTail c (.binary _ left right) rest
        (by rw [Expr.isCanonical, hleft, hright]; rfl) hrest).widen
termination_by 20 * ts.length
decreasing_by all_goals cases c <;> simp only [List.length_cons, Chain.rank] <;> omega

theorem ensures_negation (ts : List Token) (h : Lexical ts) :
    (negation ts).Ensures (·.isCanonical = true) := by
  rw [negation.eq_def]
  split
  · refine ((ensures_negation _ h.tail).map fun e he => ?_).widen
    exact isCanonical_unary he (by decide)
  · exact ensures_comparison _ h
termination_by 20 * ts.length + 11

theorem ensures_sum (ts : List Token) (h : Lexical ts) :
    (sum ts).Ensures (·.isCanonical = true) := by
  rw [sum]
  exact ensures_chain .additive ts h
termination_by 20 * ts.length + 9
decreasing_by simp only [Chain.rank]; omega

theorem ensures_comparison (ts : List Token) (h : Lexical ts) :
    (comparison ts).Ensures (·.isCanonical = true) := by
  rw [comparison]
  refine (ensures_sum ts h).andThen fun left rest _ hleft hrest => ?_
  exact (ensures_comparisonTail left rest hleft hrest).widen
termination_by 20 * ts.length + 10

theorem ensures_comparisonTail (left : Expr) (ts : List Token) (hleft : left.isCanonical = true)
    (h : Lexical ts) : (comparisonTail left ts).Ensures (·.isCanonical = true) := by
  rw [comparisonTail.eq_def]
  split
  · refine (ensures_sum _ h.tail).andThen fun lower rest _ hlower hrest => ?_
    refine (ensures_keyword hrest).andThen fun _ rest _ _ hrest => ?_
    refine ((ensures_sum rest hrest).map fun upper hupper => ?_).widen
    rw [Expr.isCanonical, hleft, hlower, hupper]
    rfl
  · refine (ensures_keyword h.tail).andThen fun _ rest _ _ hrest => ?_
    refine ((ensures_typeName hrest).map fun name hname => ?_).widen
    rw [Expr.isCanonical, hleft, hname]
    rfl
  · split
    · exact ⟨hleft, h⟩
    · refine ((ensures_sum _ h.tail).map fun right hright => ?_).widen
      rw [Expr.isCanonical, hleft, hright]
      rfl
  · exact ⟨hleft, h⟩
termination_by 20 * ts.length
decreasing_by all_goals subst_vars; simp only [List.length_cons]; omega

theorem ensures_power (ts : List Token) (h : Lexical ts) :
    (power ts).Ensures (·.isCanonical = true) := by
  rw [power]
  refine (ensures_negative ts h).andThen fun base rest _ hbase hrest => ?_
  exact (ensures_powerTail base rest hbase hrest).widen
termination_by 20 * ts.length + 4

theorem ensures_powerTail (base : Expr) (ts : List Token) (hbase : base.isCanonical = true)
    (h : Lexical ts) : (powerTail base ts).Ensures (·.isCanonical = true) := by
  rw [powerTail.eq_def]
  split
  · refine ((ensures_power _ h.tail).map fun exponent hexponent => ?_).widen
    rw [Expr.isCanonical, hbase, hexponent]
    rfl
  · exact ⟨hbase, h⟩
termination_by 20 * ts.length
decreasing_by all_goals subst_vars; simp only [List.length_cons]; omega

theorem ensures_negative (ts : List Token) (h : Lexical ts) :
    (negative ts).Ensures (·.isCanonical = true) := by
  rw [negative.eq_def]
  split
  · refine ((ensures_negative _ h.tail).map fun e he => ?_).widen
    exact Expr.isCanonical_negated he
  · exact ensures_postfixed _ h
termination_by 20 * ts.length + 3

theorem ensures_postfixed (ts : List Token) (h : Lexical ts) :
    (postfixed ts).Ensures (·.isCanonical = true) := by
  rw [postfixed]
  refine (ensures_primary ts h).andThen fun base rest _ hbase hrest => ?_
  exact (ensures_suffixes base rest hbase hrest).widen
termination_by 20 * ts.length + 2

theorem ensures_suffixes (base : Expr) (ts : List Token) (hbase : base.isCanonical = true)
    (h : Lexical ts) : (suffixes base ts).Ensures (·.isCanonical = true) := by
  rw [suffixes.eq_def]
  split
  · refine (ensures_identifier h.tail).andThen fun key rest _ hkey hrest => ?_
    exact (ensures_suffixes (base.member key) rest (Expr.isCanonical_member hbase hkey) hrest).widen
  · refine (ensures_expression _ h.tail).andThen fun predicate rest _ hpredicate hrest => ?_
    refine (ensures_delimiter hrest).andThen fun _ rest _ _ hrest => ?_
    exact (ensures_suffixes (.filter base predicate) rest
      (by rw [Expr.isCanonical, hbase, hpredicate]; rfl) hrest).widen
  · exact ⟨hbase, h⟩
termination_by 20 * ts.length
decreasing_by all_goals subst_vars; simp only [List.length_cons]; omega

theorem ensures_primary (ts : List Token) (h : Lexical ts) :
    (primary ts).Ensures (·.isCanonical = true) := by
  rw [primary.eq_def]
  split
  · refine (ensures_expression _ h.tail).andThen fun condition rest _ hcondition hrest => ?_
    refine (ensures_keyword hrest).andThen fun _ rest _ _ hrest => ?_
    refine (ensures_expression rest hrest).andThen fun yes rest _ hyes hrest => ?_
    refine (ensures_keyword hrest).andThen fun _ rest _ _ hrest => ?_
    refine ((ensures_expression rest hrest).map fun no hno => ?_).widen
    rw [Expr.isCanonical, hcondition, hyes, hno]
    rfl
  · refine (ensures_identifier h.tail).andThen fun name rest _ hname hrest => ?_
    refine (ensures_keyword hrest).andThen fun _ rest _ _ hrest => ?_
    refine (ensures_expression rest hrest).andThen fun source rest _ hsource hrest => ?_
    refine (ensures_keyword hrest).andThen fun _ rest _ _ hrest => ?_
    refine ((ensures_expression rest hrest).map fun body hbody => ?_).widen
    rw [Expr.isCanonical, hname, hsource, hbody]
    rfl
  · exact (ensures_quantified .some _ h.tail).widen
  · exact (ensures_quantified .every _ h.tail).widen
  · refine (ensures_expression _ h.tail).andThen fun inner rest _ hinner hrest => ?_
    exact (ensures_parenTail inner rest hinner hrest).widen
  · exact ⟨rfl, h.tail.tail⟩
  · refine (ensures_expression _ h.tail).andThen fun first rest _ hfirst hrest => ?_
    exact (ensures_bracketTail first rest hfirst hrest).widen
  · refine (ensures_expression _ h.tail).andThen fun lower rest _ hlower hrest => ?_
    refine (ensures_operator hrest).andThen fun _ rest _ _ hrest => ?_
    exact (ensures_rangeTail lower false rest hlower hrest).widen
  · refine (ensures_entries _ h.tail).andThen fun entries rest _ hentries hrest => ?_
    exact (ensures_delimiter hrest).andThen fun _ rest _ _ hrest => ⟨hentries, hrest⟩
  · have hname := h _ List.mem_cons_self
    refine (ensures_arguments _ h.tail.tail).andThen fun arguments rest _ harguments hrest => ?_
    refine (ensures_delimiter hrest).andThen fun _ rest _ _ hrest => ⟨?_, hrest⟩
    exact Bool.and_eq_true_iff.2 ⟨hname, harguments⟩
  · exact ⟨isPath_of_isName (h _ List.mem_cons_self), h.tail⟩
  · split
    case h_1 hl => exact ⟨isCanonical_literal (h _ List.mem_cons_self) hl, h.tail⟩
    case h_2 => trivial
  · trivial
termination_by 20 * ts.length + 1
decreasing_by all_goals subst_vars; simp only [List.length_cons]; omega

theorem ensures_quantified (quantifier : Quantifier) (ts : List Token) (h : Lexical ts) :
    (quantified quantifier ts).Ensures (·.isCanonical = true) := by
  rw [quantified]
  refine (ensures_identifier h).andThen fun name rest _ hname hrest => ?_
  refine (ensures_keyword hrest).andThen fun _ rest _ _ hrest => ?_
  refine (ensures_expression rest hrest).andThen fun source rest _ hsource hrest => ?_
  refine (ensures_keyword hrest).andThen fun _ rest _ _ hrest => ?_
  refine ((ensures_expression rest hrest).map fun predicate hpredicate => ?_).widen
  rw [Expr.isCanonical, hname, hsource, hpredicate]
  rfl
termination_by 20 * ts.length

theorem ensures_rangeTail (lower : Expr) (lowerIncluded : Bool) (ts : List Token)
    (hlower : lower.isCanonical = true) (h : Lexical ts) :
    (rangeTail lower lowerIncluded ts).Ensures (·.isCanonical = true) := by
  rw [rangeTail]
  refine (ensures_expression ts h).andThen fun upper rest _ hupper hrest => ?_
  refine ((ensures_intervalEnd hrest).map fun upperIncluded _ => ?_).widen
  rw [Expr.isCanonical, hlower, hupper]
  rfl
termination_by 20 * ts.length + 17

theorem ensures_parenTail (inner : Expr) (ts : List Token) (hinner : inner.isCanonical = true)
    (h : Lexical ts) : (parenTail inner ts).Ensures (·.isCanonical = true) := by
  rw [parenTail.eq_def]
  split
  · exact (ensures_rangeTail inner false _ hinner h.tail).widen
  · exact ⟨hinner, h.tail⟩
  · trivial
termination_by 20 * ts.length + 1
decreasing_by all_goals subst_vars; simp only [List.length_cons]; omega

theorem ensures_bracketTail (first : Expr) (ts : List Token) (hfirst : first.isCanonical = true)
    (h : Lexical ts) : (bracketTail first ts).Ensures (·.isCanonical = true) := by
  rw [bracketTail.eq_def]
  split
  · exact (ensures_rangeTail first true _ hfirst h.tail).widen
  · exact ⟨Bool.and_eq_true_iff.2 ⟨hfirst, rfl⟩, h.tail⟩
  · refine (ensures_commaItems _ h).andThen fun items rest _ hitems hrest => ?_
    refine (ensures_delimiter hrest).andThen fun _ rest _ _ hrest => ⟨?_, hrest⟩
    exact Bool.and_eq_true_iff.2 ⟨hfirst, hitems⟩
  · trivial
termination_by 20 * ts.length + 1
decreasing_by all_goals subst_vars; simp only [List.length_cons]; omega

theorem ensures_commaItems (ts : List Token) (h : Lexical ts) :
    (commaItems ts).Ensures (Expr.canonicalItems · = true) := by
  rw [commaItems.eq_def]
  split
  · refine (ensures_expression _ h.tail).andThen fun item rest _ hitem hrest => ?_
    refine ((ensures_commaItems rest hrest).map fun items hitems => ?_).widen
    rw [Expr.canonicalItems, hitem, hitems]
    rfl
  · exact ⟨rfl, h⟩
termination_by 20 * ts.length
decreasing_by all_goals subst_vars; simp only [List.length_cons]; omega

theorem ensures_arguments (ts : List Token) (h : Lexical ts) :
    (arguments ts).Ensures (Expr.canonicalItems · = true) := by
  rw [arguments]
  have hexpression := ensures_expression ts h
  split
  case h_1 first rest _ heq =>
    rw [heq] at hexpression
    obtain ⟨hfirst, hrest⟩ := hexpression
    refine ((ensures_commaItems rest hrest).map fun items hitems => ?_).widen
    rw [Expr.canonicalItems, hfirst, hitems]
    rfl
  case h_2 =>
    split
    · trivial
    · exact ⟨rfl, h⟩
termination_by 20 * ts.length + 17

theorem ensures_entry (ts : List Token) (h : Lexical ts) :
    (entry ts).Ensures (·.2.isCanonical = true) := by
  rw [entry]
  refine (ensures_contextKey h).andThen fun key rest _ _ hrest => ?_
  refine (ensures_delimiter hrest).andThen fun _ rest _ _ hrest => ?_
  exact ((ensures_expression rest hrest).map fun value hvalue => hvalue).widen
termination_by 20 * ts.length

theorem ensures_commaEntries (ts : List Token) (h : Lexical ts) :
    (commaEntries ts).Ensures (Expr.canonicalEntries · = true) := by
  rw [commaEntries.eq_def]
  split
  · refine (ensures_entry _ h.tail).andThen fun e rest _ he hrest => ?_
    refine ((ensures_commaEntries rest hrest).map fun entries hentries => ?_).widen
    rw [Expr.canonicalEntries, he, hentries]
    rfl
  · exact ⟨rfl, h⟩
termination_by 20 * ts.length
decreasing_by all_goals subst_vars; simp only [List.length_cons]; omega

theorem ensures_entries (ts : List Token) (h : Lexical ts) :
    (entries ts).Ensures (Expr.canonicalEntries · = true) := by
  rw [entries]
  have hentry := ensures_entry ts h
  split
  case h_1 first rest _ heq =>
    rw [heq] at hentry
    obtain ⟨hfirst, hrest⟩ := hentry
    refine ((ensures_commaEntries rest hrest).map fun entries hentries => ?_).widen
    rw [Expr.canonicalEntries, hfirst, hentries]
    rfl
  case h_2 =>
    split
    · trivial
    · exact ⟨rfl, h⟩
termination_by 20 * ts.length + 1

end

theorem isCanonical_of_completeExpression {e : Expr} (h : Lexical ts)
    (he : completeExpression ts = .ok e) : e.isCanonical = true := by
  have hexpression := ensures_expression ts h
  rw [completeExpression, complete.eq_def] at he
  split at he
  case h_1 heq =>
    cases he
    rw [heq] at hexpression
    exact hexpression.1
  all_goals cases he

end Rulebook.Syntax
