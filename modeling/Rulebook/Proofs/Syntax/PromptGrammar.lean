import Rulebook.Proofs.Syntax.Promptness
import Rulebook.Proofs.Syntax.RoundTrip

/-!
The rules of the grammar are prompt. What is hard to complete is an operand that ends with an open
expression, such as the last branch of a conditional, for that would take what comes next. A test
for a type ends it, and a member after that is one of the whole operand.
-/

namespace Rulebook.Syntax

open Reading (ofRule)

variable {n m : Nat} {start start' : List Token} {stop stop' : List Token → Prop}
  {ts us rest : List Token} {t : Token}

theorem prompt_token {accept : Token → Bool} {rule : Option Rule} (h : accept t = true) :
    Prompt (ofRule fun ts => token ts accept t rule) [t] Anywhere n := by
  have heq : (ofRule fun ts => token ts accept t rule) =
      .single (fun u => if accept u then some () else none) (some (.token t)) rule := by
    funext ts
    cases ts with
    | nil => rfl
    | cons u ts =>
      simp only [ofRule, token, Reading.single]
      split <;> rfl
  rw [heq]
  exact prompt_single (if_pos h)

theorem prompt_keyword (k : Keyword) : Prompt (ofRule (keyword k)) [.keyword k] Anywhere n :=
  prompt_token (beq_self_eq_true k)

theorem prompt_delimiter (d : Delimiter) (rule : Option Rule) :
    Prompt (ofRule (delimiter d rule)) [.delimiter d] Anywhere n :=
  prompt_token (beq_self_eq_true d)

theorem prompt_operator (o : Operator) (rule : Option Rule) :
    Prompt (ofRule (operator o rule)) [.operator o] Anywhere n :=
  prompt_token (beq_self_eq_true o)

-- What the rules of one token that carries something make of it.

def Token.name? : Token → Option String
  | .identifier name => some name
  | _ => none

def Token.endIncluded? : Token → Option Bool
  | .delimiter .closeBracket => some true
  | .delimiter .closeParen => some false
  | _ => none

def Token.typeName? : Token → Option String
  | .identifier name => some name
  | .keyword .null => some "null"
  | _ => none

def Token.key? : Token → Option String
  | .identifier name => some name
  | .string s => some s
  | _ => none

theorem prompt_identifier (name : String) :
    Prompt (ofRule identifier) [.identifier name] Anywhere n := by
  have heq : ofRule identifier = .single Token.name? (some .otherToken) (some .identifier) := by
    funext ts
    cases ts with
    | nil => rfl
    | cons t ts => cases t <;> rfl
  rw [heq]
  exact prompt_single rfl

theorem prompt_intervalEnd :
    Prompt (ofRule intervalEnd) [.delimiter .closeBracket] Anywhere n := by
  have heq : ofRule intervalEnd =
      .single Token.endIncluded? (some .otherToken) (some .intervalEnd) := by
    funext ts
    cases ts with
    | nil => rfl
    | cons t ts =>
      cases t with
      | delimiter d => cases d <;> rfl
      | _ => rfl
  rw [heq]
  exact prompt_single rfl

theorem prompt_typeName : Prompt (ofRule typeName) [.keyword .null] Anywhere n := by
  have heq : ofRule typeName = .single Token.typeName? none none := by
    funext ts
    cases ts with
    | nil => rfl
    | cons t ts =>
      cases t with
      | keyword k => cases k <;> rfl
      | _ => rfl
  rw [heq]
  exact prompt_single rfl

theorem prompt_contextKey (key : String) :
    Prompt (ofRule contextKey) [.identifier key] Anywhere n := by
  have heq : ofRule contextKey = .single Token.key? none none := by
    funext ts
    cases ts with
    | nil => rfl
    | cons t ts => cases t <;> rfl
  rw [heq]
  exact prompt_single rfl

theorem Level.reads_null {k : Level} (hus : Stops k us) :
    (k.parse (.keyword .null :: us)).Reads (.literal .null) us := by
  have hprimary : (Level.primary.parse (.keyword .null :: us)).Reads (.literal .null) us :=
    primary_literal rfl
  have hle : k.rank ≤ Level.primary.rank := by cases k <;> decide
  exact parse_of_rank_le hle hprimary hus

-- A value to start with at every level, and what ends an open expression before a member.

def nullMember : List Token := [.keyword .null, .operator .dot, .identifier "x"]

def typedNull : List Token :=
  [.keyword .and, .keyword .null, .keyword .instanceWord, .keyword .of, .keyword .null]

abbrev Level.IsPrompt (k : Level) (n : Nat) : Prop :=
  Prompt (ofRule k.parse) nullMember (Stops k) n

section

variable {c : Chain} {left : Expr}

theorem chainTail_of_op?_none (h : c.op? t = none) :
    (chainTail c left (t :: rest)).result = .ok (left, t :: rest) := by
  rw [chainTail]
  split
  case h_1 => rfl
  case h_2 hop => cases h.symm.trans hop

theorem chainTail_of_op?_some {op : BinaryOp} (h : c.op? t = some op) :
    (chainTail c left (t :: rest)).result =
      (ofRule (operand c)).andThen
        (fun right => ofRule (chainTail c (.binary op left right))) rest := by
  rw [chainTail]
  split
  case h_1 hop => cases h.symm.trans hop
  case h_2 hop =>
    cases h.symm.trans hop
    exact Reply.result_andThen rfl fun _ _ _ => Reply.result_widen

theorem prompt_chainTail (h : Prompt (ofRule (operand c)) start stop n)
    (hstarts : ∀ left us, stop' us → ∃ e, ofRule (chainTail c left) (start' ++ us) = .ok (e, us))
    (hstop : ∀ us, stop' us → stop (start' ++ us)) (left : Expr) :
    Prompt (ofRule (chainTail c left)) start' stop' n := by
  induction n generalizing left with
  | zero => exact ⟨hstarts left, nofun⟩
  | succ n ih =>
    have h := h.mono n.le_succ
    refine ⟨hstarts left, fun ts hlt => ?_⟩
    cases ts with
    | nil =>
      refine .nothing (.yields left) fun us hus => ?_
      rw [hus.eq_nil, ofRule, chainTail]
      rfl
    | cons t rest =>
      cases hop : c.op? t with
      | none => exact .leaves (.yields left) fun us => chainTail_of_op?_none hop
      | some op =>
        have hright := h.andThen (fun right => ih h (.binary op left right)) hstop
        exact .behind hright (Nat.lt_of_succ_lt_succ hlt) fun us => chainTail_of_op?_some hop

theorem prompt_chain (h : Prompt (ofRule (operand c)) start stop n)
    (hstarts : ∀ left us, stop' us → ∃ e, ofRule (chainTail c left) (start' ++ us) = .ok (e, us))
    (hstop : ∀ us, stop' us → stop (start' ++ us)) :
    Prompt (ofRule (chain c)) (start ++ start') stop' n := by
  refine (h.andThen (prompt_chainTail h hstarts hstop) hstop).congr fun us => ?_
  rw [ofRule, chain]
  exact Reply.result_andThen rfl fun _ _ _ => Reply.result_widen

theorem prompt_level (h : c.level.tighter.IsPrompt n) : c.level.IsPrompt n := by
  have hoperand : Prompt (ofRule (operand c)) nullMember (Stops c.level.tighter) n :=
    h.congr fun us => by rw [ofRule, parse_operand]; rfl
  have hstarts : ∀ left us, Stops c.level us →
      ∃ e, ofRule (chainTail c left) ([] ++ us) = .ok (e, us) :=
    fun left us hus => ⟨left, (chainTail_of_stops hus).result⟩
  have hchain := prompt_chain hoperand hstarts fun us hus => hus.mono c.level.rank_le_tighter
  exact hchain.congr fun us => by rw [ofRule, parse_chain]; rfl

end

theorem prompt_negation (h : Level.comparison.IsPrompt n) : Level.negation.IsPrompt n := by
  have h := h.weaken fun us (hus : Stops .negation us) => hus.mono (by decide)
  refine h.repeated (t := .keyword .not) (f := .unary .not) (fun us => ?_) (fun us hus => ?_) nofun
  · change (negation _).result = _
    rw [negation]
    exact Reply.result_widen.trans (Reply.result_map rfl)
  · change (negation us).result = _
    rw [negation.eq_def]
    split
    · exact absurd rfl hus
    · rfl

theorem prompt_negative (h : Level.suffix.IsPrompt n) : Level.sign.IsPrompt n := by
  have h := h.weaken fun us (hus : Stops .sign us) => hus.mono (by decide)
  refine h.repeated (t := .operator .minus) (f := Expr.negated) (fun us => ?_) (fun us hus => ?_)
    nofun
  · change (negative _).result = _
    rw [negative]
    exact Reply.result_widen.trans (Reply.result_map rfl)
  · change (negative us).result = _
    rw [negative.eq_def]
    split
    · exact absurd rfl hus
    · rfl

theorem prompt_power (h : Level.sign.IsPrompt n) : Level.power.IsPrompt n := by
  induction n using Nat.strong_induction_on with
  | h n ih =>
    have htail (base : Expr) : Prompt (ofRule (powerTail base)) [] (Stops .power) n := by
      refine ⟨fun us hus => ⟨base, (powerTail_of_stops hus).result⟩, fun ts hlt => ?_⟩
      by_cases hts : ts.head? = some (.operator .power)
      case pos =>
        obtain ⟨rest, rfl⟩ := List.head?_eq_some_iff.1 hts
        have hpower := (ih _ hlt (h.mono hlt.le)).map (f := Expr.binary .power base)
        refine .behind hpower (Nat.lt_succ_self _) fun us => ?_
        rw [ofRule, powerTail]
        exact Reply.result_widen.trans (Reply.result_map rfl)
      case neg =>
        refine .nothing (.yields base) fun us hus => ?_
        rw [ofRule, powerTail.eq_2 _ _ (hus.ne_cons hts)]
        rfl
    refine (h.andThen htail fun us hus => hus.mono (by decide)).congr fun us => ?_
    change (power us).result = _
    rw [power]
    exact Reply.result_andThen rfl fun _ _ _ => Reply.result_widen

theorem prompt_sum (h : Level.additive.IsPrompt n) :
    Prompt (ofRule sum) nullMember (Stops .additive) n :=
  h.congr fun us => by rw [ofRule, sum]; rfl

theorem prompt_comparisonTail (h : Level.additive.IsPrompt n) (left : Expr) :
    Prompt (ofRule (comparisonTail left)) [] (Stops .comparison) n := by
  have hsum := prompt_sum h
  have hlast := hsum.weaken fun us (hus : Stops .comparison us) => hus.mono (by decide)
  refine ⟨fun us hus => ⟨left, (comparisonTail_of_stops hus).result⟩, fun ts hlt => ?_⟩
  cases ts with
  | nil =>
    refine .nothing (.yields left) fun us hus => ?_
    rw [hus.eq_nil, ofRule, comparisonTail]
    rfl
  | cons t rest =>
    have hrest : rest.length < n := Nat.lt_of_succ_lt hlt
    by_cases hbetween : t = .keyword .between
    case pos =>
      subst hbetween
      have hupper (lower : Expr) := (prompt_keyword .and).andThen
        (fun _ => hlast.map (f := Expr.between left lower)) fun _ _ => trivial
      have hlower := hsum.andThen hupper fun us _ => stops_of_joins rfl (by decide)
      refine .behind hlower hrest fun us => ?_
      rw [ofRule, comparisonTail]
      exact Reply.result_andThen rfl fun _ _ _ => Reply.result_andThen rfl fun _ _ _ =>
        Reply.result_widen.trans (Reply.result_map rfl)
    by_cases hinstance : t = .keyword .instanceWord
    case pos =>
      subst hinstance
      have hof := (prompt_keyword (n := n) .of).andThen
        (fun _ => prompt_typeName.map (f := Expr.instanceOf left)) fun _ _ => trivial
      refine .behind hof.anywhere hrest fun us => ?_
      rw [ofRule, comparisonTail]
      exact Reply.result_andThen rfl fun _ _ _ => Reply.result_widen.trans (Reply.result_map rfl)
    cases hop : comparisonOp? t with
    | none =>
      refine .leaves (.yields left) fun us => ?_
      rw [ofRule, comparisonTail.eq_3 _ _ _ hbetween hinstance, hop]
      rfl
    | some op =>
      refine .behind (hlast.map (f := Expr.binary op left)) hrest fun us => ?_
      rw [ofRule, comparisonTail.eq_3 _ _ _ hbetween hinstance, hop]
      exact Reply.result_widen.trans (Reply.result_map rfl)

theorem prompt_comparison (h : Level.additive.IsPrompt n) : Level.comparison.IsPrompt n := by
  have hcomparison := (prompt_sum h).andThen (prompt_comparisonTail h)
    fun us hus => hus.mono (by decide)
  refine hcomparison.congr fun us => ?_
  change (comparison us).result = _
  rw [comparison]
  exact Reply.result_andThen rfl fun _ _ _ => Reply.result_widen

-- The expression in brackets is shorter than what follows the operand.
theorem prompt_suffixes (hwhole : ∀ m < n, Level.whole.IsPrompt m) (base : Expr) :
    Prompt (ofRule (suffixes base)) [.operator .dot, .identifier "x"] (Stops .suffix) n := by
  have hstarts : ∀ base us, Stops .suffix us →
      ∃ e, ofRule (suffixes base) ([.operator .dot, .identifier "x"] ++ us) = .ok (e, us) := by
    intro base us hus
    refine ⟨base.member "x", ?_⟩
    have hsuffixes : (suffixes base (.operator .dot :: .identifier "x" :: us)).Reads
        (base.member "x") us := by
      rw [suffixes]
      exact identifier_reads.andThen fun _ => (suffixes_of_stops hus).widen
    exact hsuffixes.result
  induction n using Nat.strong_induction_on generalizing base with
  | h n ih =>
    have ih (m : Nat) (hlt : m < n) := ih m hlt fun k hk => hwhole k (hk.trans hlt)
    refine ⟨hstarts base, fun ts hlt => ?_⟩
    by_cases hdot : ts.head? = some (.operator .dot)
    case pos =>
      obtain ⟨rest, rfl⟩ := List.head?_eq_some_iff.1 hdot
      have hkey := (prompt_identifier "x").andThen (fun key => ih _ hlt (base.member key))
        fun _ _ => trivial
      refine .behind hkey (Nat.lt_succ_self _) fun us => ?_
      rw [ofRule, suffixes]
      exact Reply.result_andThen rfl fun _ _ _ => Reply.result_widen
    by_cases hbracket : ts.head? = some (.delimiter .openBracket)
    case pos =>
      obtain ⟨rest, rfl⟩ := List.head?_eq_some_iff.1 hbracket
      have hclose (predicate : Expr) :=
        (prompt_delimiter .closeBracket (some .postfixForm)).andThen
          (fun _ => ih _ hlt (.filter base predicate)) fun _ _ => trivial
      have hfilter := (hwhole _ hlt).andThen hclose fun us _ => stops_of_joins_none rfl
      refine .behind hfilter (Nat.lt_succ_self _) fun us => ?_
      rw [ofRule, suffixes]
      exact Reply.result_andThen rfl fun _ _ _ => Reply.result_andThen rfl fun _ _ _ =>
        Reply.result_widen
    refine .nothing (.yields base) fun us hus => ?_
    rw [ofRule, suffixes.eq_3 _ _ (hus.ne_cons hdot) (hus.ne_cons hbracket)]
    rfl

theorem prompt_postfixed (hwhole : ∀ m < n, Level.whole.IsPrompt m)
    (h : Prompt (ofRule primary) [.keyword .null] (Before (.operator .dot)) n) :
    Level.suffix.IsPrompt n := by
  refine (h.andThen (prompt_suffixes hwhole) fun us _ => rfl).congr fun us => ?_
  change (postfixed us).result = _
  rw [postfixed]
  exact Reply.result_andThen rfl fun _ _ _ => Reply.result_widen

theorem negation_typed (us : List Token) :
    (negation (.keyword .null :: .keyword .instanceWord :: .keyword .of :: .keyword .null ::
      us)).Reads (.instanceOf (.literal .null) "null") us := by
  have hnull : (sum (.keyword .null :: .keyword .instanceWord :: .keyword .of :: .keyword .null ::
      us)).Reads (.literal .null)
        (.keyword .instanceWord :: .keyword .of :: .keyword .null :: us) := by
    rw [sum]
    exact Level.reads_null (k := .additive) (stops_of_joins rfl (by decide))
  have htype : (comparisonTail (.literal .null) (.keyword .instanceWord :: .keyword .of ::
      .keyword .null :: us)).Reads (.instanceOf (.literal .null) "null") us := by
    have hname : (typeName (.keyword .null :: us)).Reads "null" us := ⟨_, rfl⟩
    rw [comparisonTail]
    exact keyword_reads.andThen fun _ => hname.map.widen
  rw [negation.eq_2 _ (fun _ heq => by cases heq), comparison]
  exact hnull.andThen fun _ => htype.widen

-- An expression that a member can follow, though the member is not its own.
theorem prompt_closed (h : Level.negation.IsPrompt n) :
    Prompt (ofRule expression) (nullMember ++ typedNull) (Before (.operator .dot)) n := by
  have hends {c : Chain} {left : Expr} {us : List Token} (hus : Before (.operator .dot) us) :
      ofRule (chainTail c left) us = .ok (left, us) := by
    obtain ⟨us, rfl⟩ := List.head?_eq_some_iff.1 hus
    exact chainTail_of_op?_none (by cases c <;> rfl)
  have hnegation : Prompt (ofRule (operand .conjunction)) nullMember (Stops .negation) n :=
    h.congr fun us => by rw [ofRule, operand]; rfl
  have htyped : ∀ left us, Before (.operator .dot) us →
      ∃ e, ofRule (chainTail .conjunction left) (typedNull ++ us) = .ok (e, us) := by
    intro left us hus
    have hoperand : ofRule (operand .conjunction) (.keyword .null :: .keyword .instanceWord ::
        .keyword .of :: .keyword .null :: us) = .ok (.instanceOf (.literal .null) "null", us) := by
      rw [ofRule, operand]
      exact (negation_typed us).result
    have hread : ofRule (chainTail .conjunction left) (typedNull ++ us) =
        .ok (.binary .and left (.instanceOf (.literal .null) "null"), us) :=
      (chainTail_of_op?_some rfl).trans ((Reading.andThen_of_ok hoperand).trans (hends hus))
    exact ⟨_, hread⟩
  have hconjunction := prompt_chain hnegation htyped fun us _ => stops_of_joins rfl (by decide)
  have hoperand : Prompt (ofRule (operand .disjunction)) (nullMember ++ typedNull)
      (Before (.operator .dot)) n :=
    hconjunction.congr fun us => by rw [ofRule, operand]; rfl
  have hdisjunction := prompt_chain hoperand
    (fun left us (hus : Before (.operator .dot) ([] ++ us)) => ⟨left, hends hus⟩) fun us hus => hus
  exact hdisjunction.congr fun us => by rw [ofRule, expression]; rfl

section

variable (h : Level.whole.IsPrompt n)

include h

theorem prompt_rangeTail (lower : Expr) (included : Bool) :
    Prompt (ofRule (rangeTail lower included)) (nullMember ++ [.delimiter .closeBracket]) Anywhere
      n := by
  have hend (upper : Expr) :=
    (prompt_intervalEnd (n := n)).map (f := Expr.range lower upper included)
  refine (h.andThen hend fun us _ => stops_of_joins_none rfl).congr fun us => ?_
  rw [ofRule, rangeTail]
  exact Reply.result_andThen rfl fun _ _ _ => Reply.result_widen.trans (Reply.result_map rfl)

theorem prompt_parenTail (inner : Expr) :
    Prompt (ofRule (parenTail inner)) [.delimiter .closeParen] Anywhere n := by
  have hclose (us : List Token) :
      ofRule (parenTail inner) (.delimiter .closeParen :: us) = .ok (inner, us) := by
    rw [ofRule, parenTail]
    rfl
  refine ⟨fun us _ => ⟨inner, hclose us⟩, fun ts hlt => ?_⟩
  by_cases hrange : ts.head? = some (.operator .range)
  case pos =>
    obtain ⟨rest, rfl⟩ := List.head?_eq_some_iff.1 hrange
    refine .behind (prompt_rangeTail h inner false) (Nat.lt_of_succ_lt hlt) fun us => ?_
    rw [ofRule, parenTail]
    exact Reply.result_widen
  by_cases hparen : ts.head? = some (.delimiter .closeParen)
  case pos =>
    obtain ⟨rest, rfl⟩ := List.head?_eq_some_iff.1 hparen
    exact .takes inner hclose
  refine .nothing (.fails none none) fun us hus => ?_
  rw [ofRule, parenTail.eq_3 _ _ (hus.ne_cons hrange) (hus.ne_cons hparen)]
  rfl

end

-- No list of expressions goes on with the tokens.
def EndsItems (us : List Token) : Prop := Stops .whole us ∧ us.head? ≠ some (.delimiter .comma)

theorem endsItems_delimiter {d : Delimiter} (h : (Token.delimiter d).joins? = none)
    (hcomma : d ≠ .comma) : EndsItems (.delimiter d :: us) := by
  refine ⟨stops_of_joins_none h, fun heq => ?_⟩
  cases heq
  exact hcomma rfl

theorem endsItems_of_before {d : Delimiter} (h : (Token.delimiter d).joins? = none)
    (hcomma : d ≠ .comma) (hus : Before (.delimiter d) us) : EndsItems us := by
  obtain ⟨us, rfl⟩ := List.head?_eq_some_iff.1 hus
  exact endsItems_delimiter h hcomma

-- A list of what follows each of a number of commas.
theorem prompt_commas {α : Type} {item : Reading α} {list : Reading (List α)}
    (hitem : Prompt item start (Stops .whole) n)
    (hcomma : ∀ us, list (.delimiter .comma :: us) =
      item.andThen (fun value => list.map (value :: ·)) us)
    (hother : ∀ us, (∀ rest, us ≠ .delimiter .comma :: rest) → list us = .ok ([], us)) :
    Prompt list [] EndsItems n := by
  have hstarts : ∀ us, EndsItems us → ∃ values, list ([] ++ us) = .ok (values, us) :=
    fun us hus => ⟨[], hother us fun rest heq => hus.2 (heq ▸ rfl)⟩
  induction n with
  | zero => exact ⟨hstarts, nofun⟩
  | succ n ih =>
    have hitem := hitem.mono n.le_succ
    refine ⟨hstarts, fun ts hlt => ?_⟩
    by_cases hts : ts.head? = some (.delimiter .comma)
    case pos =>
      obtain ⟨rest, rfl⟩ := List.head?_eq_some_iff.1 hts
      have hitems := hitem.andThen (fun value => (ih hitem).map (f := (value :: ·)))
        fun us hus => hus.1
      exact .behind hitems (Nat.lt_of_succ_lt_succ hlt) hcomma
    case neg => exact .nothing (.yields []) fun us hus => hother us (hus.ne_cons hts)

theorem prompt_commaItems (h : Level.whole.IsPrompt n) :
    Prompt (ofRule commaItems) [] EndsItems n := by
  refine prompt_commas h (fun us => ?_) fun us hus => ?_
  · rw [ofRule, commaItems]
    exact Reply.result_andThen rfl fun _ _ _ => Reply.result_widen.trans (Reply.result_map rfl)
  · rw [ofRule, commaItems.eq_2 us hus]
    rfl

theorem prompt_bracketTail (h : Level.whole.IsPrompt n) (first : Expr) :
    Prompt (ofRule (bracketTail first)) [.delimiter .closeBracket] Anywhere n := by
  have hclose (us : List Token) :
      ofRule (bracketTail first) (.delimiter .closeBracket :: us) = .ok (.list [first], us) := by
    rw [ofRule, bracketTail]
    rfl
  refine ⟨fun us _ => ⟨.list [first], hclose us⟩, fun ts hlt => ?_⟩
  by_cases hrange : ts.head? = some (.operator .range)
  case pos =>
    obtain ⟨rest, rfl⟩ := List.head?_eq_some_iff.1 hrange
    refine .behind (prompt_rangeTail h first true) (Nat.lt_of_succ_lt hlt) fun us => ?_
    rw [ofRule, bracketTail]
    exact Reply.result_widen
  by_cases hbracket : ts.head? = some (.delimiter .closeBracket)
  case pos =>
    obtain ⟨rest, rfl⟩ := List.head?_eq_some_iff.1 hbracket
    exact .takes (.list [first]) hclose
  by_cases hcomma : ts.head? = some (.delimiter .comma)
  case pos =>
    obtain ⟨rest, rfl⟩ := List.head?_eq_some_iff.1 hcomma
    have hend (items : List Expr) :=
      (prompt_delimiter (n := n) .closeBracket (some .listOrInterval)).map
        (f := fun _ => Expr.list (first :: items))
    have hlist := (prompt_commaItems h).andThen hend
      fun us _ => endsItems_delimiter rfl (by decide)
    refine .as hlist hlt fun us hus => ?_
    obtain hus | ⟨vs, -, rfl⟩ := hus
    · obtain ⟨us, rfl⟩ := hus.exists_eq_cons
      rw [ofRule, bracketTail]
      exact Reply.result_andThen rfl fun _ _ _ => Reply.result_andThen_ok rfl
    · -- Without a comma there is but the first item, whichever way it is read.
      have hnone : ofRule commaItems (.delimiter .closeBracket :: vs) =
          .ok ([], .delimiter .closeBracket :: vs) := by
        rw [ofRule, commaItems.eq_2 _ fun _ heq => by cases heq]
        rfl
      have hclosed : ofRule (delimiter .closeBracket (some .listOrInterval))
          (.delimiter .closeBracket :: vs) = .ok ((), vs) :=
        delimiter_reads.result
      rw [List.nil_append, List.singleton_append, hclose, Reading.andThen_of_ok hnone,
        Reading.map_of_ok hclosed]
  refine .nothing (.fails none none) fun us hus => ?_
  rw [ofRule, bracketTail.eq_4 _ _ (hus.ne_cons hrange) (hus.ne_cons hbracket)
    (hus.ne_cons hcomma)]
  rfl

theorem prompt_arguments (h : Level.whole.IsPrompt n) :
    Prompt (ofRule arguments) [] (Before (.delimiter .closeParen)) n := by
  have hends (us : List Token) (hus : Before (.delimiter .closeParen) us) : EndsItems us :=
    endsItems_of_before rfl (by decide) hus
  have hrejects (us : List Token) :
      ∃ f, (expression (.delimiter .closeParen :: us)).result = .error f ∧
        f.rest = .delimiter .closeParen :: us :=
    expression_rejects_closeParen.result
  have hquietly : Prompt ((ofRule expression).quietly (ofRule commaItems)) []
      (Before (.delimiter .closeParen)) n :=
    Prompt.quietly h ((prompt_commaItems h).weaken hends) (fun us hus => (hends us hus).1) hrejects
      fun _ _ _ => Reply.length_lt
  refine hquietly.congr fun us => ?_
  rw [ofRule, arguments, Reading.quietly, ofRule]
  cases expression us with
  | ok first rest hlt => exact Reply.result_widen.trans (Reply.result_map rfl)
  | fail f => exact apply_ite Reply.result _ _ _

theorem prompt_entry (h : Level.whole.IsPrompt n) : Prompt (ofRule entry)
    ([.identifier "x", .delimiter .colon] ++ nullMember) (Stops .whole) n := by
  have hcolon (key : String) := (prompt_delimiter .colon (some .contextLiteral)).andThen
    (fun _ => h.map (f := fun value => (key, value))) fun _ _ => trivial
  refine ((prompt_contextKey "x").andThen hcolon fun _ _ => trivial).congr fun us => ?_
  rw [ofRule, entry]
  exact Reply.result_andThen rfl fun _ _ _ => Reply.result_andThen rfl fun _ _ _ =>
    Reply.result_widen.trans (Reply.result_map rfl)

theorem prompt_entries (h : Level.whole.IsPrompt n) :
    Prompt (ofRule entries) [] (Before (.delimiter .closeBrace)) n := by
  have hends (us : List Token) (hus : Before (.delimiter .closeBrace) us) : EndsItems us :=
    endsItems_of_before rfl (by decide) hus
  have hcommas : Prompt (ofRule commaEntries) [] EndsItems n := by
    refine prompt_commas (prompt_entry h) (fun us => ?_) fun us hus => ?_
    · rw [ofRule, commaEntries]
      exact Reply.result_andThen rfl fun _ _ _ => Reply.result_widen.trans (Reply.result_map rfl)
    · rw [ofRule, commaEntries.eq_2 us hus]
      rfl
  have hrejects (us : List Token) : ∃ f, ofRule entry (.delimiter .closeBrace :: us) = .error f ∧
      f.rest = .delimiter .closeBrace :: us := by
    rw [ofRule, entry]
    exact ⟨_, rfl, rfl⟩
  have hquietly : Prompt ((ofRule entry).quietly (ofRule commaEntries)) []
      (Before (.delimiter .closeBrace)) n :=
    Prompt.quietly (prompt_entry h) (hcommas.weaken hends) (fun us hus => (hends us hus).1) hrejects
      fun _ _ _ => Reply.length_lt
  refine hquietly.congr fun us => ?_
  rw [ofRule, entries, Reading.quietly, ofRule]
  cases entry us with
  | ok first rest hlt => exact Reply.result_widen.trans (Reply.result_map rfl)
  | fail f => exact apply_ite Reply.result _ _ _

-- A name, `in` and what it goes through, and then a keyword.
theorem prompt_binding {q : String → Expr → Reading Expr} {w : Keyword}
    (h : Level.whole.IsPrompt n)
    (hq : ∀ name source, Prompt (q name source) (.keyword w :: start) stop n)
    (hw : (Token.keyword w).joins? = none) :
    Prompt ((ofRule identifier).andThen fun name => (ofRule (keyword .in)).andThen fun _ =>
        (ofRule expression).andThen fun source => q name source)
      (.identifier "x" :: .keyword .in :: (nullMember ++ .keyword w :: start)) stop n := by
  have hsource (name : String) := h.andThen (hq name) fun us _ => stops_of_joins_none hw
  have hin (name : String) := (prompt_keyword .in).andThen (fun _ => hsource name)
    fun _ _ => trivial
  exact (prompt_identifier "x").andThen hin fun _ _ => trivial

-- `closed` is for an expression that nothing ends: a member of the form it is the last part of.
structure PromptExpressions (n : Nat) : Prop where
  whole : Level.whole.IsPrompt n
  closed : Prompt (ofRule expression) (nullMember ++ typedNull) (Before (.operator .dot)) n

section

variable (h : PromptExpressions n) (hlt : rest.length < n)

include h

theorem exists_prompt_quantified (q : Quantifier) :
    ∃ start, Prompt (ofRule (quantified q)) start (Before (.operator .dot)) n := by
  have htest (name : String) (source : Expr) := (prompt_keyword .satisfies).andThen
    (fun _ => h.closed.map (f := Expr.quantified q name source)) fun _ _ => trivial
  refine ⟨_, (prompt_binding h.whole htest rfl).congr fun us => ?_⟩
  rw [ofRule, quantified]
  exact Reply.result_andThen rfl fun _ _ _ => Reply.result_andThen rfl fun _ _ _ =>
    Reply.result_andThen rfl fun _ _ _ => Reply.result_andThen rfl fun _ _ _ =>
      Reply.result_widen.trans (Reply.result_map rfl)

include hlt

theorem promptOn_some :
    PromptOn (ofRule primary) (Before (.operator .dot)) (.keyword .some :: rest) := by
  obtain ⟨start, hquantified⟩ := exists_prompt_quantified h .some
  refine .behind hquantified hlt fun us => ?_
  rw [ofRule, primary]
  exact Reply.result_widen

theorem promptOn_every :
    PromptOn (ofRule primary) (Before (.operator .dot)) (.keyword .every :: rest) := by
  obtain ⟨start, hquantified⟩ := exists_prompt_quantified h .every
  refine .behind hquantified hlt fun us => ?_
  rw [ofRule, primary]
  exact Reply.result_widen

theorem promptOn_if :
    PromptOn (ofRule primary) (Before (.operator .dot)) (.keyword .if :: rest) := by
  have helse (condition yes : Expr) := (prompt_keyword .else).andThen
    (fun _ => h.closed.map (f := Expr.conditional condition yes)) fun _ _ => trivial
  have hyes (condition : Expr) := h.whole.andThen (helse condition)
    fun us _ => stops_of_joins_none rfl
  have hthen (condition : Expr) := (prompt_keyword .then).andThen (fun _ => hyes condition)
    fun _ _ => trivial
  have hcondition := h.whole.andThen hthen fun us _ => stops_of_joins_none rfl
  refine .behind hcondition hlt fun us => ?_
  rw [ofRule, primary]
  exact Reply.result_andThen rfl fun _ _ _ => Reply.result_andThen rfl fun _ _ _ =>
    Reply.result_andThen rfl fun _ _ _ => Reply.result_andThen rfl fun _ _ _ =>
      Reply.result_widen.trans (Reply.result_map rfl)

theorem promptOn_for :
    PromptOn (ofRule primary) (Before (.operator .dot)) (.keyword .for :: rest) := by
  have hbody (name : String) (source : Expr) := (prompt_keyword .return).andThen
    (fun _ => h.closed.map (f := Expr.loop name source)) fun _ _ => trivial
  refine .behind (prompt_binding h.whole hbody rfl) hlt fun us => ?_
  rw [ofRule, primary]
  exact Reply.result_andThen rfl fun _ _ _ => Reply.result_andThen rfl fun _ _ _ =>
    Reply.result_andThen rfl fun _ _ _ => Reply.result_andThen rfl fun _ _ _ =>
      Reply.result_widen.trans (Reply.result_map rfl)

theorem promptOn_openParen :
    PromptOn (ofRule primary) (Before (.operator .dot)) (.delimiter .openParen :: rest) := by
  have hparen := h.whole.andThen (prompt_parenTail h.whole) fun us _ => stops_of_joins_none rfl
  refine .behind hparen.anywhere hlt fun us => ?_
  rw [ofRule, primary]
  exact Reply.result_andThen rfl fun _ _ _ => Reply.result_widen

-- A closing bracket next makes the list empty, wherever else it may start an interval.
theorem promptOn_openBracket :
    PromptOn (ofRule primary) (Before (.operator .dot)) (.delimiter .openBracket :: rest) := by
  have hempty (us : List Token) : ofRule primary
      (.delimiter .openBracket :: .delimiter .closeBracket :: us) = .ok (.list [], us) := by
    rw [ofRule, primary]
    rfl
  by_cases hrest : rest.head? = some (.delimiter .closeBracket)
  case pos =>
    obtain ⟨rest, rfl⟩ := List.head?_eq_some_iff.1 hrest
    exact .intro [.delimiter .openBracket, .delimiter .closeBracket] rest (.yields (.list [])) rfl
      (fun us _ => hempty us) fun _ => ⟨[], fun us _ => ⟨.list [], hempty us⟩⟩
  case neg =>
    have hlist := h.whole.andThen (prompt_bracketTail h.whole) fun us _ => stops_of_joins_none rfl
    refine .after hlist.anywhere hlt (List.singleton_append ..).symm fun us hus => ?_
    have hus : ∀ vs, us ≠ .delimiter .closeBracket :: vs := by
      obtain hus | ⟨_, -, rfl⟩ := hus
      · exact hus.ne_cons hrest
      · intro vs heq
        cases heq
    rw [List.singleton_append, ofRule, primary.eq_7 us hus]
    exact Reply.result_andThen rfl fun _ _ _ => Reply.result_widen

theorem promptOn_closeBracket :
    PromptOn (ofRule primary) (Before (.operator .dot)) (.delimiter .closeBracket :: rest) := by
  have hupper (lower : Expr) := (prompt_operator .range (some .interval)).andThen
    (fun _ => prompt_rangeTail h.whole lower false) fun _ _ => trivial
  have hlower := h.whole.andThen hupper fun us _ => stops_of_joins_none rfl
  refine .behind hlower.anywhere hlt fun us => ?_
  rw [ofRule, primary]
  exact Reply.result_andThen rfl fun _ _ _ => Reply.result_andThen rfl fun _ _ _ =>
    Reply.result_widen

theorem promptOn_openBrace :
    PromptOn (ofRule primary) (Before (.operator .dot)) (.delimiter .openBrace :: rest) := by
  have hclose (entries : List (String × Expr)) :=
    (prompt_delimiter (n := n) .closeBrace (some .contextLiteral)).map
      (f := fun _ => Expr.context entries)
  have hcontext := (prompt_entries h.whole).andThen hclose fun us _ => rfl
  refine .behind hcontext.anywhere hlt fun us => ?_
  rw [ofRule, primary]
  exact Reply.result_andThen rfl fun _ _ _ => Reply.result_andThen_ok rfl

theorem promptOn_identifier (name : String) :
    PromptOn (ofRule primary) (Before (.operator .dot)) (.identifier name :: rest) := by
  by_cases hrest : rest.head? = some (.delimiter .openParen)
  case pos =>
    obtain ⟨rest, rfl⟩ := List.head?_eq_some_iff.1 hrest
    have hclose (arguments : List Expr) :=
      (prompt_delimiter (n := n) .closeParen (some .functionCall)).map
        (f := fun _ => Expr.call name arguments)
    have hcall := (prompt_arguments h.whole).andThen hclose fun us _ => rfl
    have hts : .identifier name :: .delimiter .openParen :: rest =
        [.identifier name, .delimiter .openParen] ++ rest := rfl
    refine .after hcall.anywhere (Nat.lt_of_succ_lt hlt) hts fun us _ => ?_
    change (primary (.identifier name :: .delimiter .openParen :: us)).result = _
    rw [primary]
    exact Reply.result_andThen rfl fun _ _ _ => Reply.result_andThen_ok rfl
  case neg =>
    have hreference {us : List Token} (hus : ∀ vs, us ≠ .delimiter .openParen :: vs) :
        ofRule primary (.identifier name :: us) = .ok (.reference name, us) := by
      rw [ofRule, primary.eq_11 name us hus]
      rfl
    refine .intro [.identifier name] rest (.yields (.reference name)) rfl
      (fun us hus => hreference (hus.ne_cons hrest)) fun _ => ⟨[], fun us hus => ?_⟩
    refine ⟨.reference name, hreference fun vs (heq : us = .delimiter .openParen :: vs) => ?_⟩
    rw [heq] at hus
    cases hus

omit h hlt

theorem promptOn_of_literal? {l : Literal} (hl : literal? t = some l) :
    PromptOn (ofRule primary) (Before (.operator .dot)) (t :: rest) :=
  .takes (.literal l) fun _ => (primary_literal hl).result

end

theorem prompt_primary (h : ∀ m < n, PromptExpressions m) :
    Prompt (ofRule primary) [.keyword .null] (Before (.operator .dot)) n := by
  constructor
  case starts =>
    intro us _
    have hnull : (primary (.keyword .null :: us)).Reads (.literal .null) us := primary_literal rfl
    exact ⟨.literal .null, hnull.result⟩
  case on =>
    intro ts hlt
    have hother {t : Token} {rest : List Token}
        (ht : ∀ us, (primary (t :: us)).result = .error ⟨t :: us, none, none⟩) :
        PromptOn (ofRule primary) (Before (.operator .dot)) (t :: rest) :=
      .leaves (.fails none none) ht
    cases ts with
    | nil =>
      refine .nothing (.fails none none) fun us hus => ?_
      rw [hus.eq_nil, ofRule, primary]
      rfl
    | cons t rest =>
      have h := h _ hlt
      have hrest : rest.length < (t :: rest).length := Nat.lt_succ_self _
      cases t with
      | identifier name => exact promptOn_identifier h hrest name
      | number x => exact promptOn_of_literal? rfl
      | string s => exact promptOn_of_literal? rfl
      | keyword k =>
        cases k with
        | «if» => exact promptOn_if h hrest
        | «for» => exact promptOn_for h hrest
        | some => exact promptOn_some h hrest
        | every => exact promptOn_every h hrest
        | true => exact promptOn_of_literal? rfl
        | false => exact promptOn_of_literal? rfl
        | null => exact promptOn_of_literal? rfl
        | _ => exact hother fun us => by rw [primary.eq_def]; rfl
      | delimiter d =>
        cases d with
        | openParen => exact promptOn_openParen h hrest
        | openBracket => exact promptOn_openBracket h hrest
        | closeBracket => exact promptOn_closeBracket h hrest
        | openBrace => exact promptOn_openBrace h hrest
        | _ => exact hother fun us => by rw [primary.eq_def]; rfl
      | _ => exact hother fun us => by rw [primary.eq_def]; rfl

theorem promptExpressions (n : Nat) : PromptExpressions n := by
  induction n using Nat.strong_induction_on with
  | h n ih =>
    have hsuffix := prompt_postfixed (fun m hlt => (ih m hlt).whole) (prompt_primary ih)
    have hpower := prompt_power (prompt_negative hsuffix)
    have hadditive := prompt_level (c := .additive) (prompt_level (c := .multiplicative) hpower)
    have hnegation := prompt_negation (prompt_comparison hadditive)
    have hconjunction := prompt_level (c := .conjunction) hnegation
    have hdisjunction := prompt_level (c := .disjunction) hconjunction
    have hwhole := hdisjunction.weaken fun us (hus : Stops .whole us) => hus.mono (by decide)
    refine ⟨hwhole.congr fun us => ?_, prompt_closed hnegation⟩
    rw [ofRule, Level.parse, expression]
    rfl

end Rulebook.Syntax
