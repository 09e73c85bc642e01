import Rulebook.Proofs.Syntax.Canonical

/-!
Expressions written as tokens, with parentheses only where an operand binds more loosely than its
place allows. A canonical expression is written in lexical tokens.
-/

namespace Rulebook

namespace Syntax

-- From the loosest binding to the tightest. An expression at level `whole` stands between other
-- tokens and is no operand.
inductive Level
  | whole | disjunction | conjunction | negation | comparison | additive | multiplicative | power
  | sign | suffix | primary
  deriving DecidableEq, Repr

namespace Level

def rank : Level → Nat
  | whole => 0
  | disjunction => 1
  | conjunction => 2
  | negation => 3
  | comparison => 4
  | additive => 5
  | multiplicative => 6
  | power => 7
  | sign => 8
  | suffix => 9
  | primary => 10

def tighter : Level → Level
  | whole => disjunction
  | disjunction => conjunction
  | conjunction => negation
  | negation => comparison
  | comparison => additive
  | additive => multiplicative
  | multiplicative => power
  | power => sign
  | sign => suffix
  | suffix => primary
  | primary => primary

theorem rank_inj {k j : Level} : k.rank = j.rank ↔ k = j := by
  refine ⟨fun h => ?_, congrArg rank⟩
  cases k <;> cases j <;> first | rfl | cases h

theorem rank_le_tighter (k : Level) : k.rank ≤ k.tighter.rank := by
  cases k <;> decide

theorem rank_tighter {k j : Level} (h : k.rank < j.rank) : k.tighter.rank = k.rank + 1 := by
  cases k with
  | primary => cases j <;> cases Nat.not_lt_of_le (by decide) h
  | _ => rfl

-- What binds more loosely than its position takes goes into parentheses.
def enclose (position level : Level) (ts : List Token) : List Token :=
  if level.rank < position.rank then
    .delimiter .openParen :: ts ++ [.delimiter .closeParen]
  else ts

end Level

inductive Grouping
  | left | right | none
  deriving DecidableEq, Repr

end Syntax

open Syntax

namespace BinaryOp

def token : BinaryOp → Token
  | add => .operator .plus
  | subtract => .operator .minus
  | multiply => .operator .times
  | divide => .operator .divide
  | modulo => .operator .modulo
  | power => .operator .power
  | equal => .operator .equal
  | notEqual => .operator .notEqual
  | less => .operator .less
  | greater => .operator .greater
  | lessEqual => .operator .lessEqual
  | greaterEqual => .operator .greaterEqual
  | and => .keyword .and
  | or => .keyword .or
  | isIn => .keyword .in

def level : BinaryOp → Level
  | or => .disjunction
  | and => .conjunction
  | equal | notEqual | less | greater | lessEqual | greaterEqual | isIn => .comparison
  | add | subtract => .additive
  | multiply | divide | modulo => .multiplicative
  | power => .power

def grouping (op : BinaryOp) : Grouping :=
  match op.level with
  | .comparison => .none
  | .power => .right
  | _ => .left

-- An operand on the side to which an operator groups may have the operator's own level.
def leftPosition (op : BinaryOp) : Level :=
  if op.grouping = .left then op.level else op.level.tighter

def rightPosition (op : BinaryOp) : Level :=
  if op.grouping = .right then op.level else op.level.tighter

end BinaryOp

namespace Literal

-- A negative number is written as its magnitude after a minus sign.
def render : Literal → List Token
  | number x => if Number.isNegative x then [.operator .minus, .number (-x)] else [.number x]
  | string s => [.string s]
  | boolean b => [.keyword (if b then .true else .false)]
  | null => [.keyword .null]

def level : Literal → Level
  | number x => if Number.isNegative x then .sign else .primary
  | _ => .primary

end Literal

namespace Syntax

def pathTokens : List (List Char) → List Token
  | [] => []
  | first :: others =>
    .identifier (String.ofList first) ::
      others.flatMap fun name => [.operator .dot, .identifier (String.ofList name)]

def typeToken (name : String) : Token :=
  if name = "null" then .keyword .null else .identifier name

def quantifierToken : Quantifier → Token
  | .some => .keyword .some
  | .every => .keyword .every

def lowerToken (included : Bool) : Token :=
  .delimiter (if included then .openBracket else .openParen)

def upperToken (included : Bool) : Token :=
  .delimiter (if included then .closeBracket else .closeParen)

end Syntax

namespace Expr

def level : Expr → Level
  | literal l => l.level
  | reference path => if (Scope.segments path.toList).length = 1 then .primary else .suffix
  | binary op _ _ => op.level
  | unary .negate _ => .sign
  | unary .not _ => .negation
  | range .. | list _ | context _ | call .. => .primary
  | property .. | filter .. => .suffix
  | conditional .. | loop .. | quantified .. => .whole
  | between .. | instanceOf .. => .comparison

mutual

def render : Expr → List Token
  | literal l => l.render
  | reference path => pathTokens (Scope.segments path.toList)
  | binary op l r =>
    op.leftPosition.enclose l.level (render l) ++ op.token ::
      op.rightPosition.enclose r.level (render r)
  | unary .negate e => .operator .minus :: Level.sign.enclose e.level (render e)
  | unary .not e => .keyword .not :: Level.negation.enclose e.level (render e)
  | range l u lowerIncluded upperIncluded =>
    lowerToken lowerIncluded :: render l ++ .operator .range :: render u ++
      [upperToken upperIncluded]
  | list items => .delimiter .openBracket :: renderItems items ++ [.delimiter .closeBracket]
  | context entries => .delimiter .openBrace :: renderEntries entries ++ [.delimiter .closeBrace]
  | call function arguments =>
    .identifier function :: .delimiter .openParen :: renderItems arguments ++
      [.delimiter .closeParen]
  | property base key =>
    Level.suffix.enclose base.level (render base) ++ [.operator .dot, .identifier key]
  | conditional c y n =>
    .keyword .if :: render c ++ .keyword .then :: render y ++ .keyword .else :: render n
  | loop name s b =>
    .keyword .for :: .identifier name :: .keyword .in :: render s ++ .keyword .return :: render b
  | quantified q name s p =>
    quantifierToken q :: .identifier name :: .keyword .in :: render s ++
      .keyword .satisfies :: render p
  | between e l u =>
    Level.additive.enclose e.level (render e) ++ .keyword .between ::
      Level.additive.enclose l.level (render l) ++ .keyword .and ::
        Level.additive.enclose u.level (render u)
  | instanceOf e type =>
    Level.additive.enclose e.level (render e) ++
      [.keyword .instanceWord, .keyword .of, typeToken type]
  | filter b p =>
    Level.suffix.enclose b.level (render b) ++ .delimiter .openBracket :: render p ++
      [.delimiter .closeBracket]

def renderItems : List Expr → List Token
  | [] => []
  | e :: es => render e ++ renderMoreItems es

-- Each after a comma.
def renderMoreItems : List Expr → List Token
  | [] => []
  | e :: es => .delimiter .comma :: render e ++ renderMoreItems es

def renderEntries : List (String × Expr) → List Token
  | [] => []
  | (key, e) :: es => .string key :: .delimiter .colon :: render e ++ renderMoreEntries es

def renderMoreEntries : List (String × Expr) → List Token
  | [] => []
  | (key, e) :: es =>
    .delimiter .comma :: .string key :: .delimiter .colon :: render e ++ renderMoreEntries es

end

end Expr

namespace Syntax

variable {position level : Level} {ts : List Token}

theorem enclose_of_lt (h : level.rank < position.rank) : position.enclose level ts =
    .delimiter .openParen :: ts ++ [.delimiter .closeParen] :=
  if_pos h

theorem enclose_of_le (h : position.rank ≤ level.rank) : position.enclose level ts = ts :=
  if_neg (Nat.not_lt.2 h)

theorem enclose_tighter (h : position ≠ level) :
    position.tighter.enclose level ts = position.enclose level ts := by
  by_cases hlt : level.rank < position.rank
  case pos =>
    rw [enclose_of_lt hlt, enclose_of_lt (Nat.lt_of_lt_of_le hlt position.rank_le_tighter)]
  case neg =>
    have hgt : position.rank < level.rank :=
      Nat.lt_of_le_of_ne (Nat.not_lt.1 hlt) (mt Level.rank_inj.1 h)
    rw [enclose_of_le (Nat.not_lt.1 hlt), enclose_of_le (Level.rank_tighter hgt ▸ hgt)]

theorem lexical_enclose (h : Lexical ts) : Lexical (position.enclose level ts) := by
  rw [Level.enclose]
  split
  · exact .append (.cons rfl h) (.cons rfl .nil)
  · exact h

theorem lexical_pathTokens {segments : List (List Char)}
    (h : ∀ segment ∈ segments, isName (String.ofList segment) = true) :
    Lexical (pathTokens segments) := by
  cases segments with
  | nil => exact .nil
  | cons first others =>
    obtain ⟨hfirst, hothers⟩ := List.forall_mem_cons.1 h
    refine .cons hfirst ?_
    induction others with
    | nil => exact .nil
    | cons name others ih =>
      obtain ⟨hname, hothers⟩ := List.forall_mem_cons.1 hothers
      exact .cons rfl (.cons hname (ih (List.forall_mem_cons.2 ⟨hfirst, hothers⟩) hothers))

theorem isLexical_typeToken {name : String} (h : isTypeName name = true) :
    (typeToken name).isLexical = true := by
  rw [typeToken]
  split
  · rfl
  · rw [isTypeName, Bool.or_eq_true, beq_iff_eq] at h
    exact h.resolve_right ‹_›

-- The tokens are not taken for the end of an empty list.
def Opens (ts : List Token) : Prop :=
  ∃ t rest, ts = t :: rest ∧ t ≠ .delimiter .closeBracket

theorem Opens.append {us : List Token} (h : Opens ts) : Opens (ts ++ us) := by
  obtain ⟨t, rest, rfl, ht⟩ := h
  exact ⟨t, rest ++ us, rfl, ht⟩

theorem Opens.enclose (h : Opens ts) :
    Opens (position.enclose level ts) := by
  rw [Level.enclose]
  split
  · exact ⟨_, _, rfl, nofun⟩
  · exact h

end Syntax

theorem BinaryOp.isLexical_token (op : BinaryOp) : op.token.isLexical = true := by
  cases op <;> rfl

theorem Literal.lexical_render {l : Literal} (h : (Expr.literal l).isCanonical = true) :
    Lexical l.render := by
  cases l with
  | number x =>
    rw [Expr.isCanonical, Bool.not_eq_true'] at h
    rw [Literal.render]
    cases hx : Number.isNegative x with
    | true =>
      have hneg : (Token.number (-x)).isLexical = true := by
        rw [Token.isLexical, Number.isNegative_neg h, hx, Number.isUndefined_neg h]
        rfl
      exact .cons rfl (.cons hneg .nil)
    | false =>
      have hpos : (Token.number x).isLexical = true := by
        rw [Token.isLexical, hx, h]
        rfl
      exact .cons hpos .nil
  | string | boolean | null => exact .cons rfl .nil

namespace Expr

variable {e : Expr} {items : List Expr} {entries : List (String × Expr)}

theorem lexical_renderMoreItems (h : ∀ e ∈ items, Lexical e.render) :
    Lexical (renderMoreItems items) := by
  induction items with
  | nil => exact .nil
  | cons e items ih =>
    obtain ⟨he, hitems⟩ := List.forall_mem_cons.1 h
    exact .append (.cons rfl he) (ih hitems)

theorem lexical_renderItems (h : ∀ e ∈ items, Lexical e.render) : Lexical (renderItems items) := by
  cases items with
  | nil => exact .nil
  | cons e items =>
    obtain ⟨he, hitems⟩ := List.forall_mem_cons.1 h
    exact .append he (lexical_renderMoreItems hitems)

theorem lexical_renderMoreEntries (h : ∀ e ∈ entries, Lexical e.2.render) :
    Lexical (renderMoreEntries entries) := by
  induction entries with
  | nil => exact .nil
  | cons e entries ih =>
    obtain ⟨he, hentries⟩ := List.forall_mem_cons.1 h
    exact .append (.cons rfl (.cons rfl (.cons rfl he))) (ih hentries)

theorem lexical_renderEntries (h : ∀ e ∈ entries, Lexical e.2.render) :
    Lexical (renderEntries entries) := by
  cases entries with
  | nil => exact .nil
  | cons e entries =>
    obtain ⟨he, hentries⟩ := List.forall_mem_cons.1 h
    exact .append (.cons rfl (.cons rfl he)) (lexical_renderMoreEntries hentries)

theorem lexical_render (h : e.isCanonical = true) : Lexical e.render := by
  induction e using Expr.induction with
  | literal l =>
    rw [render]
    exact Literal.lexical_render h
  | reference path =>
    rw [isCanonical, isPath, List.all_eq_true] at h
    rw [render]
    exact lexical_pathTokens h
  | binary op l r hl hr =>
    rw [isCanonical, Bool.and_eq_true] at h
    rw [render]
    exact .append (lexical_enclose (hl h.1)) (.cons op.isLexical_token (lexical_enclose (hr h.2)))
  | unary op e he =>
    rw [isCanonical, Bool.and_eq_true] at h
    cases op with
    | negate => rw [render]; exact .cons rfl (lexical_enclose (he h.1))
    | not => rw [render]; exact .cons rfl (lexical_enclose (he h.1))
  | range l u i j hl hu =>
    rw [isCanonical, Bool.and_eq_true] at h
    rw [render]
    exact .append (.append (.cons rfl (hl h.1)) (.cons rfl (hu h.2))) (.cons rfl .nil)
  | list items hitems =>
    rw [isCanonical, canonicalItems_iff] at h
    rw [render]
    exact .append (.cons rfl (lexical_renderItems fun e he => hitems e he (h e he)))
      (.cons rfl .nil)
  | context entries hentries =>
    rw [isCanonical, canonicalEntries_iff] at h
    rw [render]
    exact .append (.cons rfl (lexical_renderEntries fun e he => hentries e he (h e he)))
      (.cons rfl .nil)
  | call f arguments harguments =>
    rw [isCanonical, Bool.and_eq_true, canonicalItems_iff] at h
    rw [render]
    exact .append (.cons h.1 (.cons rfl
      (lexical_renderItems fun e he => harguments e he (h.2 e he)))) (.cons rfl .nil)
  | property b key hb =>
    rw [isCanonical, Bool.and_eq_true, Bool.and_eq_true] at h
    rw [render]
    exact .append (lexical_enclose (hb h.1.1)) (.cons rfl (.cons h.1.2 .nil))
  | conditional c y n hc hy hn =>
    rw [isCanonical, Bool.and_eq_true, Bool.and_eq_true] at h
    rw [render]
    exact .append (.append (.cons rfl (hc h.1.1)) (.cons rfl (hy h.1.2))) (.cons rfl (hn h.2))
  | loop name s b hs hb =>
    rw [isCanonical, Bool.and_eq_true, Bool.and_eq_true] at h
    rw [render]
    exact .append (.cons rfl (.cons h.1.1 (.cons rfl (hs h.1.2)))) (.cons rfl (hb h.2))
  | quantified q name s p hs hp =>
    rw [isCanonical, Bool.and_eq_true, Bool.and_eq_true] at h
    rw [render]
    have hq : (quantifierToken q).isLexical = true := by cases q <;> rfl
    exact .append (.cons hq (.cons h.1.1 (.cons rfl (hs h.1.2)))) (.cons rfl (hp h.2))
  | between e l u he hl hu =>
    rw [isCanonical, Bool.and_eq_true, Bool.and_eq_true] at h
    rw [render]
    exact .append (.append (lexical_enclose (he h.1.1)) (.cons rfl (lexical_enclose (hl h.1.2))))
      (.cons rfl (lexical_enclose (hu h.2)))
  | instanceOf e type he =>
    rw [isCanonical, Bool.and_eq_true] at h
    rw [render]
    exact .append (lexical_enclose (he h.1))
      (.cons rfl (.cons rfl (.cons (isLexical_typeToken h.2) .nil)))
  | filter b p hb hp =>
    rw [isCanonical, Bool.and_eq_true] at h
    rw [render]
    exact .append (.append (lexical_enclose (hb h.1)) (.cons rfl (hp h.2))) (.cons rfl .nil)

theorem opens_render (e : Expr) : Opens e.render := by
  induction e using Expr.induction with
  | literal l =>
    rw [render]
    cases l with
    | number x =>
      rw [Literal.render]
      split <;> exact ⟨_, _, rfl, nofun⟩
    | string | boolean | null => exact ⟨_, _, rfl, nofun⟩
  | reference path =>
    obtain ⟨first, others, h⟩ := Scope.exists_segments_eq path.toList
    rw [render, h]
    exact ⟨_, _, rfl, nofun⟩
  | binary op l r hl => rw [render]; exact hl.enclose.append
  | unary op e => cases op <;> rw [render] <;> exact ⟨_, _, rfl, nofun⟩
  | range l u i =>
    rw [render]
    cases i <;> exact ⟨_, _, rfl, nofun⟩
  | quantified q =>
    rw [render]
    cases q <;> exact ⟨_, _, rfl, nofun⟩
  | list | context | call | conditional | loop => rw [render]; exact ⟨_, _, rfl, nofun⟩
  | property b key hb => rw [render]; exact hb.enclose.append
  | between e l u he => rw [render]; exact he.enclose.append.append
  | instanceOf e type he => rw [render]; exact he.enclose.append
  | filter b p hb => rw [render]; exact hb.enclose.append.append

end Expr

end Rulebook
