import Rulebook.Proofs.Syntax.Reading

/-!
The rendering of a canonical expression is read back as this expression, at every place that it is
written for. An operand of its own operator's level, and the base of a suffix, are read together
with what follows them.
-/

namespace Rulebook.Syntax

variable {e first : Expr} {t : Token} {ts rest rest' : List Token} {result : Expr}

theorem primary_literal {l : Literal} (h : literal? t = some l) :
    (primary (t :: rest)).Reads (.literal l) rest := by
  unfold literal? at h
  split at h <;> cases h <;> rw [primary.eq_def] <;> exact ⟨_, rfl⟩

theorem primary_identifier {name : String} (hs : Stops .primary rest) :
    (primary (.identifier name :: rest)).Reads (.reference name) rest := by
  rw [primary]
  · exact ⟨_, rfl⟩
  · rintro rest' rfl
    exact absurd rfl hs.joins_ne

theorem primary_openBracket (hopens : Opens ts) (h : (expression ts).Reads first rest)
    (ht : (bracketTail first rest).Reads result rest') :
    (primary (.delimiter .openBracket :: ts)).Reads result rest' := by
  obtain ⟨t, ts, rfl, hne⟩ := hopens
  rw [primary]
  · exact h.andThen fun _ => ht.widen
  · rintro rest' heq
    cases heq
    exact hne rfl

theorem comparisonTail_reads {l r : Expr} {op : BinaryOp} (hop : op.level = .comparison)
    (h : (sum ts).Reads r rest) :
    (comparisonTail l (op.token :: ts)).Reads (.binary op l r) rest := by
  cases op <;> first | (rw [comparisonTail.eq_def]; exact h.map.widen) | cases hop

-- Names after points make a longer path.
theorem suffixes_names {others : List (List Char)} {path full : String}
    (hfull : full.toList = path.toList ++ others.flatMap ('.' :: ·))
    (h : (suffixes (.reference full) rest).Reads result rest') :
    (suffixes (.reference path) ((others.flatMap fun name =>
      [.operator .dot, .identifier (String.ofList name)]) ++ rest)).Reads result rest' := by
  induction others generalizing path with
  | nil =>
    obtain rfl : full = path := String.toList_inj.1 (by simpa using hfull)
    exact h
  | cons name others ih =>
    rw [List.flatMap_cons, List.append_assoc]
    change (suffixes _ (.operator .dot :: .identifier (String.ofList name) :: _)).Reads _ _
    rw [suffixes]
    refine identifier_reads.andThen fun _ => .widen ?_
    exact ih (by simpa using hfull)

theorem arguments_of_reads {es : List Expr} (h : (expression ts).Reads first rest)
    (ht : (commaItems rest).Reads es rest') : (arguments ts).Reads (first :: es) rest' := by
  obtain ⟨hlt, heq⟩ := h
  rw [arguments]
  split
  case h_1 heq' =>
    cases heq.symm.trans heq'
    exact ht.map.widen
  case h_2 heq' => cases heq.symm.trans heq'

theorem arguments_of_rejects (h : (expression ts).Rejects ts) : (arguments ts).Reads [] ts := by
  obtain ⟨failure, heq, hrest⟩ := h
  rw [arguments]
  split
  case h_1 heq' => cases heq.symm.trans heq'
  case h_2 heq' =>
    cases heq.symm.trans heq'
    rw [if_neg (by rw [hrest]; exact Nat.lt_irrefl _)]
    exact ⟨_, rfl⟩

theorem entries_of_reads {e : String × Expr} {es : List (String × Expr)}
    (h : (entry ts).Reads e rest) (ht : (commaEntries rest).Reads es rest') :
    (entries ts).Reads (e :: es) rest' := by
  obtain ⟨hlt, heq⟩ := h
  rw [entries]
  split
  case h_1 heq' =>
    cases heq.symm.trans heq'
    exact ht.map.widen
  case h_2 heq' => cases heq.symm.trans heq'

theorem entries_of_rejects (h : (entry ts).Rejects ts) : (entries ts).Reads [] ts := by
  obtain ⟨failure, heq, hrest⟩ := h
  rw [entries]
  split
  case h_1 heq' => cases heq.symm.trans heq'
  case h_2 heq' =>
    cases heq.symm.trans heq'
    rw [if_neg (by rw [hrest]; exact Nat.lt_irrefl _)]
    exact ⟨_, rfl⟩

theorem stops_moreItems {items : List Expr} (hs : Stops .whole rest) :
    Stops .whole (Expr.renderMoreItems items ++ rest) := by
  cases items with
  | nil => exact hs
  | cons e items => exact stops_of_joins_none rfl

theorem stops_moreEntries {entries : List (String × Expr)} (hs : Stops .whole rest) :
    Stops .whole (Expr.renderMoreEntries entries ++ rest) := by
  cases entries with
  | nil => exact hs
  | cons e entries => exact stops_of_joins_none rfl

-- What the induction carries. The rendering is read as the expression where no form of its level
-- goes on. Left operands and bases of suffixes stand where one does: there the rule goes on as if
-- it had the expression already.
structure Reparses (e : Expr) : Prop where
  parse {rest : List Token} (hs : Stops e.level rest) :
    (e.level.parse (e.render ++ rest)).Reads e rest
  chain {c : Chain} {rest rest' : List Token} {result : Expr} (hlevel : e.level = c.level)
    (hs : Stops c.level.tighter rest) (ht : (chainTail c e rest).Reads result rest') :
    (Syntax.chain c (e.render ++ rest)).Reads result rest'
  suffix {rest rest' : List Token} {result : Expr} (hlevel : e.level = .suffix)
    (hs : Stops .primary rest) (ht : (suffixes e rest).Reads result rest') :
    (postfixed (e.render ++ rest)).Reads result rest'

variable {base l r : Expr} {c : Chain} {k : Level}

namespace Reparses

theorem of_chain (hlevel : e.level = c.level)
    (h : ∀ {rest rest' : List Token} {result : Expr}, Stops c.level.tighter rest →
      (chainTail c e rest).Reads result rest' →
        (Syntax.chain c (e.render ++ rest)).Reads result rest') :
    Reparses e where
  parse hs := by
    rw [hlevel] at hs ⊢
    rw [parse_chain]
    exact h (hs.mono (by cases c <;> decide)) (chainTail_of_stops hs)
  chain hlevel' hs ht := by
    obtain rfl := Chain.level_inj.1 (hlevel.symm.trans hlevel')
    exact h hs ht
  suffix hsuffix := by cases c <;> cases hlevel.symm.trans hsuffix

theorem of_suffix (hlevel : e.level = .suffix)
    (h : ∀ {rest rest' : List Token} {result : Expr}, Stops .primary rest →
      (suffixes e rest).Reads result rest' → (postfixed (e.render ++ rest)).Reads result rest') :
    Reparses e where
  parse hs := by
    rw [hlevel] at hs ⊢
    exact h (hs.mono (by decide)) (suffixes_of_stops hs)
  chain {c} _ _ _ hchain := by cases c <;> cases hlevel.symm.trans hchain
  suffix _ hs ht := h hs ht

theorem of_parse (hlevel : e.level = k) (hk : k.standsAlone = true)
    (h : ∀ {rest : List Token}, Stops k rest → (k.parse (e.render ++ rest)).Reads e rest) :
    Reparses e where
  parse hs := by
    subst hlevel
    exact h hs
  chain {c} _ _ _ hc := by
    obtain rfl : k = c.level := hlevel.symm.trans hc
    cases c <;> cases hk
  suffix hsuffix := by
    obtain rfl : k = .suffix := hlevel.symm.trans hsuffix
    cases hk

theorem expression (h : Reparses e) (hs : Stops .whole rest) :
    (expression (e.render ++ rest)).Reads e rest :=
  parse_of_rank_le (k := .whole) (Nat.zero_le _) (h.parse (hs.mono (Nat.zero_le _))) hs

theorem parentheses (h : Reparses e) :
    (primary (.delimiter .openParen :: e.render ++ [.delimiter .closeParen] ++ rest)).Reads
      e rest := by
  have hinner : (Syntax.expression (e.render ++ .delimiter .closeParen :: rest)).Reads e
      (.delimiter .closeParen :: rest) := h.expression (stops_of_joins_none rfl)
  rw [List.cons_append, List.cons_append, List.append_assoc, List.singleton_append, primary]
  refine hinner.andThen fun _ => .widen ?_
  rw [parenTail]
  exact ⟨_, rfl⟩

theorem enclose (h : Reparses e) (hs : Stops k rest) :
    (k.parse (k.enclose e.level e.render ++ rest)).Reads e rest := by
  by_cases hlt : e.level.rank < k.rank
  case pos =>
    rw [enclose_of_lt hlt]
    exact parse_of_rank_le (j := .primary) (by cases k <;> decide) h.parentheses hs
  case neg =>
    have hle := Nat.not_lt.1 hlt
    rw [enclose_of_le hle]
    exact parse_of_rank_le hle (h.parse (hs.mono hle)) hs

theorem enclose_chain (h : Reparses e) (hs : Stops c.level.tighter rest)
    (ht : (chainTail c e rest).Reads result rest') :
    (Syntax.chain c (c.level.enclose e.level e.render ++ rest)).Reads result rest' := by
  by_cases hlevel : e.level = c.level
  case pos =>
    rw [enclose_of_le (Nat.le_of_eq (congrArg _ hlevel.symm))]
    exact h.chain hlevel hs ht
  case neg =>
    have hoperand := h.enclose hs
    rw [← parse_operand, enclose_tighter (Ne.symm hlevel)] at hoperand
    rw [Syntax.chain]
    exact hoperand.andThen fun _ => ht.widen

theorem enclose_suffix (h : Reparses e) (hs : Stops .primary rest)
    (ht : (suffixes e rest).Reads result rest') :
    (postfixed (Level.suffix.enclose e.level e.render ++ rest)).Reads result rest' := by
  by_cases hlevel : e.level = .suffix
  case pos =>
    rw [hlevel, enclose_of_le (Nat.le_refl _)]
    exact h.suffix hlevel hs ht
  case neg =>
    rw [postfixed, ← enclose_tighter (Ne.symm hlevel)]
    exact (h.enclose hs).andThen fun _ => ht.widen

theorem of_primary (hlevel : e.level = .primary)
    (h : ∀ {rest : List Token}, Stops .primary rest → (primary (e.render ++ rest)).Reads e rest) :
    Reparses e :=
  of_parse hlevel rfl h

theorem of_whole (hlevel : e.level = .whole)
    (h : ∀ {rest : List Token}, Stops .whole rest → (primary (e.render ++ rest)).Reads e rest) :
    Reparses e :=
  of_parse hlevel rfl fun hs => parse_of_rank_le (j := .primary) (Nat.zero_le _) (h hs) hs

theorem binary_chain {op : BinaryOp} (hop : op.level = c.level) (hl : Reparses l)
    (hr : Reparses r) : Reparses (.binary op l r) := by
  refine of_chain hop fun {rest rest' result} hs ht => ?_
  have hleft : op.leftPosition = c.level := by cases op <;> cases c <;> first | rfl | cases hop
  have hright : op.rightPosition = c.level.tighter := by
    cases op <;> cases c <;> first | rfl | cases hop
  have hlt : op.level.rank < c.level.tighter.rank := by rw [hop]; cases c <;> decide
  rw [Expr.render, hleft, hright, List.append_assoc]
  refine hl.enclose_chain (stops_of_joins (joins_token op) hlt) ?_
  rw [List.cons_append, chainTail, op?_eq_some_iff.2 ⟨rfl, hop⟩]
  rw [parse_operand]
  exact (hr.enclose hs).andThen fun _ => ht.widen

theorem binary_comparison {op : BinaryOp} (hop : op.level = .comparison) (hl : Reparses l)
    (hr : Reparses r) : Reparses (.binary op l r) := by
  refine of_parse (k := .comparison) hop rfl fun {rest} hs => ?_
  have hposition : op.leftPosition = .additive ∧ op.rightPosition = .additive := by
    cases op <;> first | exact ⟨rfl, rfl⟩ | cases hop
  have hlt : op.level.rank < Level.additive.rank := by rw [hop]; decide
  change (comparison (Expr.render _ ++ rest)).Reads _ rest
  rw [Expr.render, hposition.1, hposition.2, List.append_assoc, comparison, sum]
  refine (hl.enclose (k := .additive) (stops_of_joins (joins_token op) hlt)).andThen fun _ =>
    .widen (comparisonTail_reads hop ?_)
  rw [sum]
  exact hr.enclose (k := .additive) (hs.mono (by decide))

theorem binary_power (hl : Reparses l) (hr : Reparses r) : Reparses (.binary .power l r) := by
  refine of_parse (k := .power) rfl rfl fun {rest} hs => ?_
  change (power (Expr.render _ ++ rest)).Reads _ rest
  rw [Expr.render, List.append_assoc, power]
  refine (hl.enclose (k := .sign) (stops_of_joins rfl (by decide))).andThen fun _ => .widen ?_
  change (powerTail l (.operator .power ::
    (Level.power.enclose r.level r.render ++ rest))).Reads _ _
  rw [powerTail]
  exact (hr.enclose (k := .power) hs).map.widen

theorem binary {op : BinaryOp} (hl : Reparses l) (hr : Reparses r) :
    Reparses (.binary op l r) := by
  cases hop : op.level with
  | disjunction => exact binary_chain (c := .disjunction) hop hl hr
  | conjunction => exact binary_chain (c := .conjunction) hop hl hr
  | additive => exact binary_chain (c := .additive) hop hl hr
  | multiplicative => exact binary_chain (c := .multiplicative) hop hl hr
  | comparison => exact binary_comparison hop hl hr
  | power =>
    obtain rfl : op = .power := by cases op <;> first | rfl | cases hop
    exact binary_power hl hr
  | whole | negation | sign | suffix | primary => cases op <;> cases hop

theorem negate (h : Reparses e) (hnumber : e.isNumber = false) : Reparses (.unary .negate e) := by
  refine of_parse (k := .sign) rfl rfl fun {rest} hs => ?_
  change (negative (Expr.render _ ++ rest)).Reads _ rest
  rw [Expr.render, List.cons_append, negative]
  rw [← Expr.negated_eq_unary hnumber]
  exact (h.enclose hs).map.widen

theorem not (h : Reparses e) : Reparses (.unary .not e) := by
  refine of_parse (k := .negation) rfl rfl fun {rest} hs => ?_
  change (negation (Expr.render _ ++ rest)).Reads _ rest
  rw [Expr.render, List.cons_append, negation]
  exact (h.enclose hs).map.widen

theorem property {key : String} (h : Reparses base) (hbase : base.isReference = false) :
    Reparses (.property base key) := by
  refine of_suffix rfl fun {rest rest' result} hs ht => ?_
  rw [Expr.render, List.append_assoc]
  refine h.enclose_suffix (stops_of_joins rfl (by decide)) ?_
  rw [List.cons_append, List.singleton_append, suffixes]
  refine identifier_reads.andThen fun _ => .widen ?_
  rwa [Expr.member_eq_property hbase]

theorem filter {predicate : Expr} (h : Reparses base) (hpredicate : Reparses predicate) :
    Reparses (.filter base predicate) := by
  refine of_suffix rfl fun {rest rest' result} hs ht => ?_
  rw [Expr.render, List.append_assoc, List.append_assoc]
  refine h.enclose_suffix (stops_of_joins rfl (by decide)) ?_
  rw [List.cons_append, suffixes]
  refine (hpredicate.expression (stops_of_joins_none rfl)).andThen fun _ => ?_
  exact delimiter_reads.andThen fun _ => .widen ht

theorem conditional {condition yes no : Expr} (hcondition : Reparses condition)
    (hyes : Reparses yes) (hno : Reparses no) : Reparses (.conditional condition yes no) := by
  refine of_whole rfl fun {rest} hs => ?_
  rw [Expr.render, List.append_assoc, List.append_assoc, List.cons_append, primary]
  refine (hcondition.expression (stops_of_joins_none rfl)).andThen fun _ => ?_
  refine keyword_reads.andThen fun _ => ?_
  refine (hyes.expression (stops_of_joins_none rfl)).andThen fun _ => ?_
  refine keyword_reads.andThen fun _ => ?_
  exact (hno.expression hs).map.widen

theorem loop {name : String} {source body : Expr} (hsource : Reparses source)
    (hbody : Reparses body) : Reparses (.loop name source body) := by
  refine of_whole rfl fun {rest} hs => ?_
  rw [Expr.render, List.append_assoc, List.cons_append, primary]
  refine identifier_reads.andThen fun _ => ?_
  refine keyword_reads.andThen fun _ => ?_
  refine (hsource.expression (stops_of_joins_none rfl)).andThen fun _ => ?_
  refine keyword_reads.andThen fun _ => ?_
  exact (hbody.expression hs).map.widen

theorem quantified {quantifier : Quantifier} {name : String} {source predicate : Expr}
    (hsource : Reparses source) (hpredicate : Reparses predicate) :
    Reparses (.quantified quantifier name source predicate) := by
  refine of_whole rfl fun {rest} hs => ?_
  have h : (Syntax.quantified quantifier (.identifier name :: .keyword .in :: (source.render ++
      .keyword .satisfies :: (predicate.render ++ rest)))).Reads
        (.quantified quantifier name source predicate) rest := by
    rw [Syntax.quantified]
    refine identifier_reads.andThen fun _ => ?_
    refine keyword_reads.andThen fun _ => ?_
    refine (hsource.expression (stops_of_joins_none rfl)).andThen fun _ => ?_
    refine keyword_reads.andThen fun _ => ?_
    exact (hpredicate.expression hs).map.widen
  rw [Expr.render, List.append_assoc, List.cons_append]
  cases quantifier <;> rw [quantifierToken, primary] <;> exact h.widen

theorem between {lower upper : Expr} (h : Reparses e) (hlower : Reparses lower)
    (hupper : Reparses upper) : Reparses (.between e lower upper) := by
  refine of_parse (k := .comparison) rfl rfl fun {rest} hs => ?_
  change (comparison (Expr.render _ ++ rest)).Reads _ rest
  rw [Expr.render, List.append_assoc, List.append_assoc, comparison, sum]
  refine (h.enclose (k := .additive) (stops_of_joins rfl (by decide))).andThen fun _ => .widen ?_
  rw [List.cons_append, comparisonTail, sum]
  refine (hlower.enclose (k := .additive) (stops_of_joins rfl (by decide))).andThen fun _ => ?_
  refine keyword_reads.andThen fun _ => ?_
  rw [sum]
  exact (hupper.enclose (k := .additive) (hs.mono (Nat.le_succ 4))).map.widen

theorem instanceOf {name : String} (h : Reparses e) : Reparses (.instanceOf e name) := by
  refine of_parse (k := .comparison) rfl rfl fun {rest} hs => ?_
  change (comparison (Expr.render _ ++ rest)).Reads _ rest
  rw [Expr.render, comparison, sum, List.append_assoc]
  refine (h.enclose (k := .additive) (stops_of_joins rfl (by decide))).andThen fun _ => .widen ?_
  change (comparisonTail e (.keyword .instanceWord :: .keyword .of ::
    typeToken name :: rest)).Reads _ _
  rw [comparisonTail]
  refine keyword_reads.andThen fun _ => ?_
  exact typeName_reads.map.widen

theorem literal {l : Literal} (h : (Expr.literal l).isCanonical = true) :
    Reparses (.literal l) := by
  cases l with
  | number x =>
    rw [Expr.isCanonical, Bool.not_eq_true'] at h
    cases hx : Number.isNegative x with
    | true =>
      have hlevel : (Expr.literal (.number x)).level = .sign := if_pos hx
      have hrender : (Expr.literal (.number x)).render = [.operator .minus, .number (-x)] :=
        if_pos hx
      refine of_parse hlevel rfl fun {rest} hs => ?_
      rw [hrender]
      change (negative (.operator .minus :: .number (-x) :: rest)).Reads _ rest
      have hmagnitude := parse_of_rank_le (k := .sign) (j := .primary) (by decide)
        (primary_literal (t := .number (-x)) rfl) hs
      have hnegated : (Expr.literal (.number (-x))).negated = .literal (.number x) := by
        rw [Expr.negated, Number.neg_neg h]
      rw [negative, ← hnegated]
      exact hmagnitude.map.widen
    | false =>
      have hlevel : (Expr.literal (.number x)).level = .primary := if_neg (by simp [hx])
      have hrender : (Expr.literal (.number x)).render = [.number x] := if_neg (by simp [hx])
      refine of_primary hlevel fun {rest} _ => ?_
      rw [hrender]
      exact primary_literal rfl
  | string s => exact of_primary rfl fun _ => primary_literal rfl
  | boolean b => exact of_primary rfl fun _ => primary_literal (by cases b <;> rfl)
  | null => exact of_primary rfl fun _ => primary_literal rfl

theorem reference {path : String} : Reparses (.reference path) := by
  obtain ⟨first, others, hsegments⟩ := Scope.exists_segments_eq path.toList
  have hpath := Scope.eq_of_segments_eq hsegments
  have hrender : (Expr.reference path).render = pathTokens (first :: others) := by
    rw [Expr.render, hsegments]
  cases others with
  | nil =>
    have hlevel : (Expr.reference path).level = .primary := if_pos (by rw [hsegments]; rfl)
    have hfirst : path = String.ofList first := by
      rw [← String.toList_inj, hpath]
      simp
    refine of_primary hlevel fun {rest} hs => ?_
    rw [hrender, hfirst]
    exact primary_identifier hs
  | cons name others =>
    have hlevel : (Expr.reference path).level = .suffix :=
      if_neg (by simp [hsegments])
    refine of_suffix hlevel fun {rest rest' result} hs ht => ?_
    rw [hrender, postfixed]
    refine (primary_identifier (stops_of_joins rfl (by decide))).andThen fun _ => .widen ?_
    exact suffixes_names (by rwa [String.toList_ofList]) ht

theorem range {i j : Bool} (hl : Reparses l) (hr : Reparses r) :
    Reparses (.range l r i j) := by
  refine of_primary rfl fun {rest} _ => ?_
  have hupper : Stops .whole (upperToken j :: rest) := stops_of_joins_none (by cases j <;> rfl)
  have htail : (rangeTail l i (r.render ++ upperToken j :: rest)).Reads (.range l r i j) rest := by
    rw [rangeTail]
    exact (hr.expression hupper).andThen fun _ => intervalEnd_reads.map.widen
  have hlower : (Syntax.expression (l.render ++ .operator .range ::
      (r.render ++ upperToken j :: rest))).Reads l (.operator .range ::
        (r.render ++ upperToken j :: rest)) := hl.expression (stops_of_joins_none rfl)
  rw [Expr.render, List.append_assoc, List.append_assoc, List.cons_append]
  cases i with
  | true =>
    refine primary_openBracket (Expr.opens_render l).append hlower ?_
    rw [bracketTail]
    exact htail.widen
  | false =>
    rw [lowerToken]
    change (primary (.delimiter .openParen :: _)).Reads _ _
    rw [primary]
    refine hlower.andThen fun _ => .widen ?_
    rw [parenTail]
    exact htail.widen

theorem commaItems {items : List Expr} (h : ∀ e ∈ items, Reparses e) (hs : Stops .whole rest)
    (hcomma : rest.head? ≠ some (.delimiter .comma)) :
    (commaItems (Expr.renderMoreItems items ++ rest)).Reads items rest := by
  induction items with
  | nil =>
    rw [Expr.renderMoreItems, List.nil_append, Syntax.commaItems.eq_def]
    split
    · exact absurd rfl hcomma
    · exact ⟨_, rfl⟩
  | cons e items ih =>
    obtain ⟨he, hitems⟩ := List.forall_mem_cons.1 h
    rw [Expr.renderMoreItems, List.append_assoc, List.cons_append, Syntax.commaItems]
    refine (he.expression (stops_moreItems hs)).andThen fun _ => ?_
    exact (ih hitems).map.widen

theorem entry {entry : String × Expr} (h : Reparses entry.2) (hs : Stops .whole rest) :
    (Syntax.entry (.string entry.1 :: .delimiter .colon :: (entry.2.render ++ rest))).Reads
      entry rest := by
  rw [Syntax.entry]
  have hkey : (contextKey (.string entry.1 :: .delimiter .colon :: (entry.2.render ++ rest))).Reads
      entry.1 (.delimiter .colon :: (entry.2.render ++ rest)) := ⟨_, rfl⟩
  refine hkey.andThen fun _ => ?_
  refine delimiter_reads.andThen fun _ => ?_
  exact (h.expression hs).map.widen

theorem commaEntries {entries : List (String × Expr)} (h : ∀ e ∈ entries, Reparses e.2)
    (hs : Stops .whole rest) (hcomma : rest.head? ≠ some (.delimiter .comma)) :
    (commaEntries (Expr.renderMoreEntries entries ++ rest)).Reads entries rest := by
  induction entries with
  | nil =>
    rw [Expr.renderMoreEntries, List.nil_append, Syntax.commaEntries.eq_def]
    split
    · exact absurd rfl hcomma
    · exact ⟨_, rfl⟩
  | cons e entries ih =>
    obtain ⟨he, hentries⟩ := List.forall_mem_cons.1 h
    rw [Expr.renderMoreEntries, List.append_assoc, List.cons_append, Syntax.commaEntries]
    refine (Reparses.entry he (stops_moreEntries hs)).andThen fun _ => ?_
    exact (ih hentries).map.widen

theorem list {items : List Expr} (h : ∀ e ∈ items, Reparses e) : Reparses (.list items) := by
  refine of_primary rfl fun {rest} _ => ?_
  rw [Expr.render, List.append_assoc, List.cons_append, List.singleton_append]
  cases items with
  | nil =>
    rw [Expr.renderItems, List.nil_append, primary]
    exact ⟨_, rfl⟩
  | cons first items =>
    obtain ⟨hfirst, hitems⟩ := List.forall_mem_cons.1 h
    have hstops : Stops .whole (.delimiter .closeBracket :: rest) := stops_of_joins_none rfl
    rw [Expr.renderItems, List.append_assoc]
    refine primary_openBracket (Expr.opens_render first).append
      (hfirst.expression (stops_moreItems hstops)) ?_
    cases items with
    | nil =>
      rw [Expr.renderMoreItems, List.nil_append, bracketTail]
      exact ⟨_, rfl⟩
    | cons e items =>
      have hmore := commaItems hitems hstops (by simp)
      rw [Expr.renderMoreItems, List.append_assoc, List.cons_append] at hmore ⊢
      rw [bracketTail]
      refine hmore.andThen fun _ => ?_
      exact delimiter_reads.andThen fun _ => ⟨_, rfl⟩

theorem renderedEntries {entries : List (String × Expr)} (h : ∀ e ∈ entries, Reparses e.2) :
    (Syntax.entries (Expr.renderEntries entries ++ .delimiter .closeBrace :: rest)).Reads
      entries (.delimiter .closeBrace :: rest) := by
  have hstops : Stops .whole (.delimiter .closeBrace :: rest) := stops_of_joins_none rfl
  cases entries with
  | nil =>
    refine entries_of_rejects ?_
    rw [Syntax.entry]
    exact Reply.Rejects.andThen ⟨_, rfl, rfl⟩
  | cons e entries =>
    obtain ⟨he, hentries⟩ := List.forall_mem_cons.1 h
    rw [Expr.renderEntries, List.append_assoc]
    exact entries_of_reads (Reparses.entry he (stops_moreEntries hstops))
      (commaEntries hentries hstops (by simp))

theorem context {entries : List (String × Expr)} (h : ∀ e ∈ entries, Reparses e.2) :
    Reparses (.context entries) := by
  refine of_primary rfl fun {rest} _ => ?_
  rw [Expr.render, List.append_assoc, List.cons_append, List.singleton_append, primary]
  refine (renderedEntries h).andThen fun _ => ?_
  exact delimiter_reads.andThen fun _ => ⟨_, rfl⟩

theorem renderedArguments {arguments : List Expr} (h : ∀ e ∈ arguments, Reparses e) :
    (Syntax.arguments (Expr.renderItems arguments ++ .delimiter .closeParen :: rest)).Reads
      arguments (.delimiter .closeParen :: rest) := by
  have hstops : Stops .whole (.delimiter .closeParen :: rest) := stops_of_joins_none rfl
  cases arguments with
  | nil =>
    rw [Expr.renderItems, List.nil_append]
    refine arguments_of_rejects (expression_rejects ?_ (by simp) (by simp))
    rw [primary.eq_def]
    exact ⟨_, rfl, rfl⟩
  | cons e arguments =>
    obtain ⟨he, harguments⟩ := List.forall_mem_cons.1 h
    rw [Expr.renderItems, List.append_assoc]
    exact arguments_of_reads (he.expression (stops_moreItems hstops))
      (commaItems harguments hstops (by simp))

theorem call {function : String} {arguments : List Expr} (h : ∀ e ∈ arguments, Reparses e) :
    Reparses (.call function arguments) := by
  refine of_primary rfl fun {rest} _ => ?_
  rw [Expr.render, List.append_assoc, List.cons_append, List.cons_append, List.singleton_append,
    primary]
  refine (renderedArguments h).andThen fun _ => ?_
  exact delimiter_reads.andThen fun _ => ⟨_, rfl⟩

end Reparses

theorem reparses (h : e.isCanonical = true) : Reparses e := by
  induction e using Expr.induction with
  | literal l => exact .literal h
  | reference path => exact .reference
  | binary op l r hl hr =>
    rw [Expr.isCanonical, Bool.and_eq_true] at h
    exact .binary (hl h.1) (hr h.2)
  | unary op e he =>
    rw [Expr.isCanonical, Bool.and_eq_true, Bool.not_eq_true'] at h
    cases op with
    | negate => exact .negate (he h.1) h.2
    | not => exact .not (he h.1)
  | range l u i j hl hu =>
    rw [Expr.isCanonical, Bool.and_eq_true] at h
    exact .range (hl h.1) (hu h.2)
  | list items hitems =>
    rw [Expr.isCanonical, Expr.canonicalItems_iff] at h
    exact .list fun e he => hitems e he (h e he)
  | context entries hentries =>
    rw [Expr.isCanonical, Expr.canonicalEntries_iff] at h
    exact .context fun e he => hentries e he (h e he)
  | call f arguments harguments =>
    rw [Expr.isCanonical, Bool.and_eq_true, Expr.canonicalItems_iff] at h
    exact .call fun e he => harguments e he (h.2 e he)
  | property b key hb =>
    rw [Expr.isCanonical, Bool.and_eq_true, Bool.and_eq_true, Bool.not_eq_true'] at h
    exact .property (hb h.1.1) h.2
  | conditional c y n hc hy hn =>
    rw [Expr.isCanonical, Bool.and_eq_true, Bool.and_eq_true] at h
    exact .conditional (hc h.1.1) (hy h.1.2) (hn h.2)
  | loop name s b hs hb =>
    rw [Expr.isCanonical, Bool.and_eq_true, Bool.and_eq_true] at h
    exact .loop (hs h.1.2) (hb h.2)
  | quantified q name s p hs hp =>
    rw [Expr.isCanonical, Bool.and_eq_true, Bool.and_eq_true] at h
    exact .quantified (hs h.1.2) (hp h.2)
  | between e l u he hl hu =>
    rw [Expr.isCanonical, Bool.and_eq_true, Bool.and_eq_true] at h
    exact .between (he h.1.1) (hl h.1.2) (hu h.2)
  | instanceOf e type he =>
    rw [Expr.isCanonical, Bool.and_eq_true] at h
    exact .instanceOf (he h.1)
  | filter b p hb hp =>
    rw [Expr.isCanonical, Bool.and_eq_true] at h
    exact .filter (hb h.1) (hp h.2)

end Rulebook.Syntax
