import Rulebook.Proofs.Syntax.Rendering
import Rulebook.Syntax.Grammar

/-!
What the rules of the grammar read from the front of a token list. A rule reads what a rule of a
tighter level reads, unless the token after it goes on at the rule's own level.
-/

namespace Rulebook.Syntax

variable {α β : Type} {n m : Nat}

namespace Reply

-- The value is read, and `rest` is left.
def Reads (r : Reply α n) (value : α) (rest : List Token) : Prop :=
  ∃ h, r = .ok value rest h

-- Not even the first token of `ts` is taken.
def Rejects (r : Reply α n) (ts : List Token) : Prop :=
  ∃ failure, r = .fail failure ∧ failure.rest = ts

variable {r : Reply α n} {value : α} {result : β} {ts rest rest' : List Token}

namespace Reads

theorem andThen {f : (value : α) → (rest : List Token) → rest.length < n → Reply β m}
    (hr : r.Reads value rest) (hf : ∀ h, (f value rest h).Reads result rest') :
    (r.andThen f).Reads result rest' := by
  obtain ⟨h, rfl⟩ := hr
  exact hf h

theorem map {f : α → β} (hr : r.Reads value rest) : (r.map f).Reads (f value) rest := by
  obtain ⟨h, rfl⟩ := hr
  exact ⟨h, rfl⟩

theorem widen {h : n ≤ m} (hr : r.Reads value rest) : (r.widen h).Reads value rest := by
  obtain ⟨h', rfl⟩ := hr
  exact ⟨_, rfl⟩

end Reads

namespace Rejects

theorem andThen {f : (value : α) → (rest : List Token) → rest.length < n → Reply β m}
    (hr : r.Rejects ts) : (r.andThen f).Rejects ts := by
  obtain ⟨failure, rfl, h⟩ := hr
  exact ⟨failure, rfl, h⟩

theorem not_reads (hr : r.Rejects ts) : ¬r.Reads value rest := by
  obtain ⟨failure, rfl, -⟩ := hr
  rintro ⟨_, h⟩
  cases h

end Rejects

end Reply

-- The level of the forms that the token goes on with after an operand.
def Token.joins? : Token → Option Level
  | .keyword .or => some .disjunction
  | .keyword .and => some .conjunction
  | .keyword .in | .keyword .between | .keyword .instanceWord => some .comparison
  | .operator .equal | .operator .notEqual | .operator .less | .operator .lessEqual
  | .operator .greater | .operator .greaterEqual => some .comparison
  | .operator .plus | .operator .minus => some .additive
  | .operator .times | .operator .divide | .operator .modulo => some .multiplicative
  | .operator .power => some .power
  | .operator .dot | .delimiter .openBracket => some .suffix
  | .delimiter .openParen => some .primary
  | _ => none

-- No form of the level or a tighter one goes on with the tokens.
def Stops (level : Level) : List Token → Prop
  | [] => True
  | t :: _ => ∀ joined, t.joins? = some joined → joined.rank < level.rank

def Level.parse : Level → (ts : List Token) → Reply Expr ts.length
  | .whole => expression
  | .disjunction => Syntax.chain .disjunction
  | .conjunction => Syntax.chain .conjunction
  | .negation => Syntax.negation
  | .comparison => Syntax.comparison
  | .additive => Syntax.chain .additive
  | .multiplicative => Syntax.chain .multiplicative
  | .power => Syntax.power
  | .sign => negative
  | .suffix => postfixed
  | .primary => Syntax.primary

-- No expression of the level is read as the start of a longer one of the same level.
def Level.standsAlone : Level → Bool
  | .disjunction | .conjunction | .additive | .multiplicative | .suffix => false
  | _ => true

def Chain.level : Chain → Level
  | .disjunction => .disjunction
  | .conjunction => .conjunction
  | .additive => .additive
  | .multiplicative => .multiplicative

variable {e : Expr} {c c' : Chain} {op : BinaryOp} {k j : Level} {t : Token} {ts rest : List Token}

theorem Chain.level_inj : c.level = c'.level ↔ c = c' := by
  refine ⟨fun h => ?_, congrArg level⟩
  cases c <;> cases c' <;> first | rfl | cases h

theorem Stops.mono (h : Stops k ts) (hle : k.rank ≤ j.rank) : Stops j ts := by
  cases ts with
  | nil => trivial
  | cons t ts => exact fun joined hjoined => Nat.lt_of_lt_of_le (h joined hjoined) hle

theorem stops_of_joins (h : t.joins? = some j) (hlt : j.rank < k.rank) : Stops k (t :: ts) :=
  fun joined hjoined => by cases h.symm.trans hjoined; exact hlt

theorem stops_of_joins_none (h : t.joins? = none) : Stops k (t :: ts) :=
  fun joined hjoined => by cases h.symm.trans hjoined

theorem Stops.joins_ne (h : Stops k (t :: ts)) : t.joins? ≠ some k :=
  fun hjoins => Nat.lt_irrefl _ (h k hjoins)

theorem joins_token (op : BinaryOp) : op.token.joins? = some op.level := by
  cases op <;> rfl

theorem op?_eq_some_iff : c.op? t = some op ↔ t = op.token ∧ op.level = c.level := by
  constructor
  · intro h
    unfold Chain.op? at h
    split at h <;> cases h <;> exact ⟨rfl, rfl⟩
  · rintro ⟨rfl, h⟩
    cases op <;> cases c <;> first | rfl | cases h

theorem comparisonOp?_eq_some_iff :
    comparisonOp? t = some op ↔ t = op.token ∧ op.level = .comparison := by
  constructor
  · intro h
    unfold comparisonOp? at h
    split at h <;> cases h <;> exact ⟨rfl, rfl⟩
  · rintro ⟨rfl, h⟩
    cases op <;> first | rfl | cases h

theorem parse_chain : c.level.parse = chain c := by
  cases c <;> rfl

theorem parse_operand : operand c ts = c.level.tighter.parse ts := by
  cases c <;> rw [operand] <;> rfl

theorem keyword_reads {w : Keyword} : (keyword w (.keyword w :: rest)).Reads () rest :=
  ⟨Nat.lt_succ_self _, if_pos (beq_self_eq_true w)⟩

theorem delimiter_reads {d : Delimiter} {rule : Option Rule} :
    (delimiter d rule (.delimiter d :: rest)).Reads () rest :=
  ⟨Nat.lt_succ_self _, if_pos (beq_self_eq_true d)⟩

theorem identifier_reads {name : String} :
    (identifier (.identifier name :: rest)).Reads name rest :=
  ⟨Nat.lt_succ_self _, rfl⟩

theorem intervalEnd_reads {included : Bool} :
    (intervalEnd (upperToken included :: rest)).Reads included rest := by
  cases included <;> exact ⟨_, rfl⟩

theorem typeName_reads {name : String} :
    (typeName (typeToken name :: rest)).Reads name rest := by
  by_cases hname : name = "null"
  · subst hname
    exact ⟨_, rfl⟩
  · rw [typeToken, if_neg hname]
    exact ⟨_, rfl⟩

-- Where the next token does not go on at a level, its rule adds nothing to the operand.

theorem suffixes_of_stops (h : Stops .suffix rest) : (suffixes e rest).Reads e rest := by
  rw [suffixes.eq_def]
  split
  · exact absurd rfl h.joins_ne
  · exact absurd rfl h.joins_ne
  · exact ⟨_, rfl⟩

theorem powerTail_of_stops (h : Stops .power rest) : (powerTail e rest).Reads e rest := by
  rw [powerTail.eq_def]
  split
  · exact absurd rfl h.joins_ne
  · exact ⟨_, rfl⟩

theorem chainTail_of_stops (h : Stops c.level rest) : (chainTail c e rest).Reads e rest := by
  rw [chainTail.eq_def]
  split
  · exact ⟨_, rfl⟩
  · split
    · exact ⟨_, rfl⟩
    case h_2 hop =>
      obtain ⟨rfl, hlevel⟩ := op?_eq_some_iff.1 hop
      exact absurd (hlevel ▸ joins_token _) h.joins_ne

theorem comparisonTail_of_stops (h : Stops .comparison rest) :
    (comparisonTail e rest).Reads e rest := by
  rw [comparisonTail.eq_def]
  split
  · exact absurd rfl h.joins_ne
  · exact absurd rfl h.joins_ne
  · split
    · exact ⟨_, rfl⟩
    case h_2 hop =>
      obtain ⟨rfl, hlevel⟩ := comparisonOp?_eq_some_iff.1 hop
      exact absurd (hlevel ▸ joins_token _) h.joins_ne
  · exact ⟨_, rfl⟩

-- A rule that cannot start with the first token takes nothing.

section

variable (hprimary : (primary ts).Rejects ts)

include hprimary

theorem postfixed_rejects : (postfixed ts).Rejects ts := by
  rw [postfixed]
  exact hprimary.andThen

theorem power_rejects (hminus : ts.head? ≠ some (.operator .minus)) : (power ts).Rejects ts := by
  have hnegative : (negative ts).Rejects ts := by
    rw [negative.eq_def]
    split
    · exact absurd rfl hminus
    · exact postfixed_rejects hprimary
  rw [power]
  exact hnegative.andThen

theorem comparison_rejects (hminus : ts.head? ≠ some (.operator .minus)) :
    (comparison ts).Rejects ts := by
  rw [comparison, sum, chain, operand, chain, operand]
  exact (power_rejects hprimary hminus).andThen.andThen.andThen

theorem expression_rejects (hminus : ts.head? ≠ some (.operator .minus))
    (hnot : ts.head? ≠ some (.keyword .not)) : (expression ts).Rejects ts := by
  have hnegation : (negation ts).Rejects ts := by
    rw [negation.eq_def]
    split
    · exact absurd rfl hnot
    · exact comparison_rejects hprimary hminus
  rw [expression, chain, operand, chain, operand]
  exact hnegation.andThen.andThen

end

theorem chain_of_tighter (h : (c.level.tighter.parse ts).Reads e rest) (hs : Stops c.level rest) :
    (chain c ts).Reads e rest := by
  rw [← parse_operand] at h
  rw [chain]
  exact h.andThen fun _ => (chainTail_of_stops hs).widen

theorem primary_rejects_not : (primary (.keyword .not :: ts)).Rejects (.keyword .not :: ts) := by
  rw [primary.eq_def]
  exact ⟨_, rfl, rfl⟩

theorem primary_rejects_operator (o : Operator) :
    (primary (.operator o :: ts)).Rejects (.operator o :: ts) := by
  rw [primary.eq_def]
  exact ⟨_, rfl, rfl⟩

theorem expression_rejects_closeParen :
    (expression (.delimiter .closeParen :: ts)).Rejects (.delimiter .closeParen :: ts) := by
  have hprimary :
      (primary (.delimiter .closeParen :: ts)).Rejects (.delimiter .closeParen :: ts) := by
    rw [primary.eq_def]
    exact ⟨_, rfl, rfl⟩
  exact expression_rejects hprimary nofun nofun

theorem parse_of_tighter (h : (k.tighter.parse ts).Reads e rest) (hs : Stops k rest) :
    (k.parse ts).Reads e rest := by
  cases k with
  | whole =>
    change (expression ts).Reads e rest
    rw [expression]
    exact h
  | disjunction => exact chain_of_tighter (c := .disjunction) h hs
  | conjunction => exact chain_of_tighter (c := .conjunction) h hs
  | negation =>
    change (negation ts).Reads e rest
    rw [negation.eq_def]
    split
    · exact absurd h (comparison_rejects primary_rejects_not (by simp)).not_reads
    · exact h
  | comparison =>
    change (comparison ts).Reads e rest
    rw [comparison, sum]
    exact h.andThen fun _ => (comparisonTail_of_stops hs).widen
  | additive => exact chain_of_tighter (c := .additive) h hs
  | multiplicative => exact chain_of_tighter (c := .multiplicative) h hs
  | power =>
    change (power ts).Reads e rest
    rw [power]
    exact h.andThen fun _ => (powerTail_of_stops hs).widen
  | sign =>
    change (negative ts).Reads e rest
    rw [negative.eq_def]
    split
    · exact absurd h (postfixed_rejects (primary_rejects_operator _)).not_reads
    · exact h
  | suffix =>
    change (postfixed ts).Reads e rest
    rw [postfixed]
    exact h.andThen fun _ => (suffixes_of_stops hs).widen
  | primary => exact h

theorem parse_of_rank_le {k : Level} (hle : k.rank ≤ j.rank) (h : (j.parse ts).Reads e rest)
    (hs : Stops k rest) : (k.parse ts).Reads e rest := by
  by_cases hkj : k = j
  case pos => exact hkj ▸ h
  case neg =>
    have hlt : k.rank < j.rank := Nat.lt_of_le_of_ne hle (mt Level.rank_inj.1 hkj)
    have hrank : k.tighter.rank = k.rank + 1 := Level.rank_tighter hlt
    exact parse_of_tighter (parse_of_rank_le (by omega) h (hs.mono (by omega))) hs
termination_by j.rank - k.rank

end Rulebook.Syntax
