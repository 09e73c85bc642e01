import Rulebook.Proofs.Syntax.CombinatorAnswers
import Rulebook.Proofs.Syntax.Reading

/-!
The grammar of expressions and cells put together from parsers, one way after the other being tried
where there are several. It reads what the rules do that decide by one token.
-/

namespace Rulebook.Syntax

-- The rules of the grammar.
inductive Nonterminal
  | form (k : Level)
  | completeExpression
  | comparisonSuffix | typeName
  | nameOrCall | conditional | loop | quantified
  | parenthesized | bracketed | leftOpenRange | rangeTail
  | contextLiteral | contextKey
  | test | tests | cell

namespace Nonterminal

-- A suffix yields what it makes of the expression before it.
@[reducible]
def Output : Nonterminal → Type
  | comparisonSuffix => Expr → Expr
  | typeName | contextKey => String
  | rangeTail => Expr × Bool
  | test => CellTest
  | tests => List CellTest
  | cell => Cell
  | _ => Expr

def level : Nonterminal → Nat
  | cell => 14
  | tests => 13
  | test | completeExpression => 12
  | form k => 11 - k.rank
  | _ => 0

end Nonterminal

open Nonterminal (Output)

namespace Parser

variable {α : Type} {c d e : Bool}

def rule (r : Nonterminal) : Parser Output true (Output r) :=
  .call r

def expression : Parser Output true Expr :=
  rule (.form .whole)

def sum : Parser Output true Expr :=
  rule (.form .additive)

def token (matches? : Token → Bool) : Parser Output true Unit :=
  .satisfy fun t => if matches? t then some () else none

def keyword (k : Keyword) : Parser Output true Unit :=
  token fun | .keyword k' => k' == k | _ => false

def operator (o : Operator) : Parser Output true Unit :=
  token fun | .operator o' => o' == o | _ => false

def delimiter (d : Delimiter) : Parser Output true Unit :=
  token fun | .delimiter d' => d' == d | _ => false

def identifier : Parser Output true String :=
  .satisfy fun | .identifier name => some name | _ => none

def string : Parser Output true String :=
  .satisfy fun | .string s => some s | _ => none

-- Membership is no such operator.
def comparisonOperator : Parser Output true BinaryOp :=
  .satisfy fun | .operator o => comparisonOp? (.operator o) | _ => none

def quantifier : Parser Output true Quantifier :=
  .satisfy fun
    | .keyword .some => some .some
    | .keyword .every => some .every
    | _ => none

-- Whether the end of an interval belongs to it.
def intervalEnd : Parser Output true Bool :=
  .satisfy fun
    | .delimiter .closeBracket => some true
    | .delimiter .closeParen => some false
    | _ => none

def preceded (p : Parser Output c Unit) (q : Parser Output d α) : Parser Output (c || d) α :=
  .map Prod.snd (.pair p q)

def delimited (left : Parser Output c Unit) (p : Parser Output d α) (right : Parser Output e Unit) :
    Parser Output (c || (d || e)) α :=
  .map (fun (_, value, _) => value) (.pair left (.pair p right))

-- An operator and its right operand.
def link (c : Chain) : Parser Output true (BinaryOp × Expr) :=
  .pair (.satisfy c.op?) (rule (.form c.level.tighter))

def chain (c : Chain) : Parser Output true Expr :=
  .map (fun (first, links) => links.foldl (fun left (op, right) => .binary op left right) first)
    (.pair (rule (.form c.level.tighter)) (.many (link c)))

def suffix : Parser Output true (Expr → Expr) :=
  .either
    (.map (fun key base => Expr.member base key) (.preceded (.operator .dot) .identifier))
    (.map (fun predicate base => Expr.filter base predicate)
      (.delimited (.delimiter .openBracket) expression (.delimiter .closeBracket)))

def entry : Parser Output true (String × Expr) :=
  .map (fun (key, _, value) => (key, value))
    (.pair (rule .contextKey) (.pair (.delimiter .colon) expression))

def item : Parser Output true Expr :=
  .preceded (.delimiter .comma) expression

def ofRule : (r : Nonterminal) → Parser Output true (Output r)
  | .form .whole => rule (.form .disjunction)
  | .form .disjunction => chain .disjunction
  | .form .conjunction => chain .conjunction
  | .form .negation =>
    .either (.map (Expr.unary .not) (.preceded (.keyword .not) (rule (.form .negation))))
      (rule (.form .comparison))
  | .form .comparison =>
    .map (fun (left, suffix) => suffix.elim left (· left))
      (.pair sum (.optional (rule .comparisonSuffix)))
  | .form .additive => chain .additive
  | .form .multiplicative => chain .multiplicative
  | .form .power =>
    .map (fun (base, exponent) => exponent.elim base (Expr.binary .power base))
      (.pair (rule (.form .sign))
        (.optional (.preceded (.operator .power) (rule (.form .power)))))
  | .form .sign =>
    .either (.map Expr.negated (.preceded (.operator .minus) (rule (.form .sign))))
      (rule (.form .suffix))
  | .form .suffix =>
    .map (fun (base, suffixes) => suffixes.foldl (fun base suffix => suffix base) base)
      (.pair (rule (.form .primary)) (.many suffix))
  | .form .primary =>
    .either (.map Expr.literal (.satisfy literal?))
    (.either (rule .conditional)
    (.either (rule .loop)
    (.either (rule .quantified)
    (.either (rule .parenthesized)
    (.either (rule .bracketed)
    (.either (rule .leftOpenRange)
    (.either (rule .contextLiteral)
      (rule .nameOrCall))))))))
  | .completeExpression => .map (fun (e, _) => e) (.pair expression .endOfInput)
  | .comparisonSuffix =>
    .either
      (.map (fun (op, right) left => Expr.binary op left right) (.pair .comparisonOperator sum))
    (.either
      (.map (fun right left => Expr.binary .isIn left right) (.preceded (.keyword .in) sum))
    (.either
      (.map (fun (lower, upper) left => Expr.between left lower upper)
        (.pair (.preceded (.keyword .between) sum) (.preceded (.keyword .and) sum)))
      (.map (fun name left => Expr.instanceOf left name)
        (.preceded (.keyword .instanceWord) (.preceded (.keyword .of) (rule .typeName))))))
  | .typeName => .either .identifier (.map (fun _ => "null") (.keyword .null))
  | .nameOrCall =>
    .map (fun (name, arguments) => arguments.elim (Expr.reference name) (Expr.call name))
      (.pair .identifier
        (.optional (.delimited (.delimiter .openParen)
          (.separated (.delimiter .comma) expression) (.delimiter .closeParen))))
  | .conditional =>
    .map (fun (condition, yes, no) => Expr.conditional condition yes no)
      (.pair (.preceded (.keyword .if) expression)
      (.pair (.preceded (.keyword .then) expression)
        (.preceded (.keyword .else) expression)))
  | .loop =>
    .map (fun (name, source, body) => Expr.loop name source body)
      (.pair (.preceded (.keyword .for) .identifier)
      (.pair (.preceded (.keyword .in) expression)
        (.preceded (.keyword .return) expression)))
  | .quantified =>
    .map (fun (quantifier, name, source, test) => Expr.quantified quantifier name source test)
      (.pair .quantifier
      (.pair .identifier
      (.pair (.preceded (.keyword .in) expression)
        (.preceded (.keyword .satisfies) expression))))
  | .parenthesized =>
    .map
      (fun (inner, tail) =>
        tail.elim inner fun (upper, included) => Expr.range inner upper false included)
      (.pair (.preceded (.delimiter .openParen) expression)
        (.either (.map some (rule .rangeTail)) (.map (fun _ => none) (.delimiter .closeParen))))
  | .bracketed =>
    .preceded (.delimiter .openBracket)
      (.either (.map (fun _ => Expr.list []) (.delimiter .closeBracket))
        (.map (fun (first, tail) => tail first)
          (.pair expression
            (.either
              (.map (fun (upper, included) first => Expr.range first upper true included)
                (rule .rangeTail))
              (.map (fun (rest, _) first => Expr.list (first :: rest))
                (.pair (.many item) (.delimiter .closeBracket)))))))
  | .leftOpenRange =>
    .map (fun (lower, upper, included) => Expr.range lower upper false included)
      (.preceded (.delimiter .closeBracket) (.pair expression (rule .rangeTail)))
  | .rangeTail => .preceded (.operator .range) (.pair expression .intervalEnd)
  | .contextLiteral =>
    .map Expr.context
      (.delimited (.delimiter .openBrace) (.separated (.delimiter .comma) entry)
        (.delimiter .closeBrace))
  | .contextKey => .either .identifier .string
  | .test =>
    .either
      (.map (fun (op, value) => CellTest.comparison op value)
        (.pair .comparisonOperator expression))
      (.map CellTest.expression expression)
  | .tests =>
    .map (fun (first, rest) => first :: rest)
      (.pair (rule .test) (.many (.preceded (.delimiter .comma) (rule .test))))
  | .cell =>
    .either (.map (fun _ => Cell.any) (.pair (.operator .minus) .endOfInput))
    (.either
      (.map (fun (tests, _) => Cell.tests true tests)
        (.pair
          (.delimited (.map (fun _ => ()) (.pair (.keyword .not) (.delimiter .openParen)))
            (rule .tests) (.delimiter .closeParen))
          .endOfInput))
      (.map (fun (tests, _) => Cell.tests false tests) (.pair (rule .tests) .endOfInput)))

end Parser

def grammar : Grammar Output where
  rule := Parser.ofRule
  level := Nonterminal.level
  height := 15
  level_lt r := by
    cases r with
    | form k => cases k <;> decide
    | _ => decide
  descends r := by
    cases r with
    | form k => cases k <;> rfl
    | _ => rfl

variable {α β : Type} {n m : Nat} {ts rest : List Token} {c d e : Bool}

namespace Reply

variable {r : Reply α n}

-- What was expected and by which rule is left out.
def answer : Reply α n → Answer α
  | ok value rest _ => .ok value rest
  | fail failure => .fail failure.rest

@[simp] theorem answer_map {f : α → β} : (r.map f).answer = r.answer.map f := by
  cases r <;> rfl

@[simp] theorem answer_widen {h : n ≤ m} : (r.widen h).answer = r.answer := by
  cases r <;> rfl

theorem answer_andThen {f : (value : α) → (rest : List Token) → rest.length < n → Reply β m}
    {a : Answer α} {g : α → List Token → Answer β} (hr : r.answer = a)
    (hf : ∀ value rest h, (f value rest h).answer = g value rest) :
    (r.andThen f).answer = a.andThen g := by
  subst hr
  cases r with
  | ok value rest h => exact hf value rest h
  | fail failure => rfl

theorem answer_unlessTaken {failure : Failure} {value : α} {h : ts.length < n} :
    (if failure.rest.length < ts.length then fail failure else ok value ts h : Reply α n).answer =
      .unlessTaken ts failure.rest value := by
  unfold Answer.unlessTaken
  split <;> rfl

theorem answer_of_rejects (h : r.Rejects ts) : r.answer = .fail ts := by
  obtain ⟨failure, rfl, rfl⟩ := h
  rfl

end Reply

open Rulebook.Syntax.Grammar

theorem answer_rule (r : Nonterminal) :
    grammar.answer (.rule r) ts = grammar.answer (.ofRule r) ts :=
  answer_call

@[simp] theorem answer_preceded {p : Parser Output c Unit} {q : Parser Output d α} :
    grammar.answer (.preceded p q) ts =
      (grammar.answer p ts).andThen fun _ rest => grammar.answer q rest := by
  simp [Parser.preceded]

theorem started_preceded {p : Parser Output true Unit} {q : Parser Output d α}
    (h : (grammar.answer p ts).Started ts) : (grammar.answer (.preceded p q) ts).Started ts :=
  started_map (started_pair h)

@[simp] theorem answer_delimited {left : Parser Output c Unit} {p : Parser Output d α}
    {right : Parser Output e Unit} : grammar.answer (.delimited left p right) ts =
      (grammar.answer left ts).andThen fun _ rest =>
        (grammar.answer p rest).andThen fun value rest =>
          (grammar.answer right rest).map fun _ => value := by
  simp [Parser.delimited]

theorem started_delimited {left : Parser Output true Unit} {p : Parser Output d α}
    {right : Parser Output e Unit} (h : (grammar.answer left ts).Started ts) :
    (grammar.answer (.delimited left p right) ts).Started ts :=
  started_map (started_pair h)

section Terminals

variable {matches? : Token → Bool} {expected : Token} {failing : Option Rule} {k : Keyword}

theorem answer_token : (token ts matches? expected failing).answer =
    grammar.answer (.token matches?) ts := by
  rw [Parser.token, answer_satisfy]
  cases ts with
  | nil => rfl
  | cons t rest =>
    rw [token, accept]
    split <;> rfl

theorem answer_keyword : (keyword k ts).answer = grammar.answer (.keyword k) ts :=
  answer_token

theorem answer_operator {o : Operator} :
    (operator o failing ts).answer = grammar.answer (.operator o) ts :=
  answer_token

theorem answer_delimiter {d : Delimiter} :
    (delimiter d failing ts).answer = grammar.answer (.delimiter d) ts :=
  answer_token

theorem answer_identifier : (identifier ts).answer = grammar.answer .identifier ts := by
  rw [Parser.identifier, answer_satisfy]
  cases ts with
  | nil => rfl
  | cons t rest => cases t <;> rfl

theorem answer_intervalEnd : (intervalEnd ts).answer = grammar.answer .intervalEnd ts := by
  rw [Parser.intervalEnd, answer_satisfy]
  cases ts with
  | nil => rfl
  | cons t rest =>
    cases t with
    | delimiter d => cases d <;> rfl
    | _ => rfl

theorem answer_typeName : (typeName ts).answer = grammar.answer (.rule .typeName) ts := by
  rw [answer_rule, Parser.ofRule, answer_either, Parser.identifier, answer_satisfy, answer_map,
    Parser.keyword, Parser.token, answer_satisfy]
  cases ts with
  | nil => rfl
  | cons t rest =>
    cases t with
    | keyword k => cases k <;> simp [accept, Answer.furthest, typeName, noAlternative, Reply.answer]
    | _ => simp [accept, Answer.furthest, typeName, noAlternative, Reply.answer]

theorem answer_contextKey : (contextKey ts).answer = grammar.answer (.rule .contextKey) ts := by
  rw [answer_rule, Parser.ofRule, answer_either, Parser.identifier, answer_satisfy, Parser.string,
    answer_satisfy]
  cases ts with
  | nil => rfl
  | cons t rest =>
    cases t <;> simp [accept, Answer.furthest, contextKey, noAlternative, Reply.answer]

theorem answer_keyword_cons : grammar.answer (.keyword k) (.keyword k :: ts) = .ok () ts := by
  simp [Parser.keyword, Parser.token, accept]

theorem answer_operator_cons {o : Operator} :
    grammar.answer (.operator o) (.operator o :: ts) = .ok () ts := by
  simp [Parser.operator, Parser.token, accept]

theorem answer_delimiter_cons {d : Delimiter} :
    grammar.answer (.delimiter d) (.delimiter d :: ts) = .ok () ts := by
  simp [Parser.delimiter, Parser.token, accept]

theorem answer_identifier_cons {name : String} :
    grammar.answer .identifier (.identifier name :: ts) = .ok name ts := by
  simp [Parser.identifier, accept]

theorem answer_token_of_fail {us : List Token}
    (h : grammar.answer (.token matches?) ts = .fail us) : us = ts := by
  rw [Parser.token, answer_satisfy] at h
  cases ts with
  | nil =>
    cases h
    rfl
  | cons t rest =>
    rw [accept] at h
    split at h <;> cases h
    rfl

theorem answer_token_of_ne (h : ∀ t rest, ts = t :: rest → matches? t = false) :
    grammar.answer (.token matches?) ts = .fail ts := by
  rw [Parser.token, answer_satisfy]
  cases ts with
  | nil => rfl
  | cons t rest => rw [accept, h t rest rfl]; rfl

theorem answer_keyword_of_ne (h : ∀ rest, ts ≠ .keyword k :: rest) :
    grammar.answer (.keyword k) ts = .fail ts := by
  refine answer_token_of_ne fun t rest hts => ?_
  subst hts
  cases t with
  | keyword k' => exact beq_false_of_ne fun hk => h rest (hk ▸ rfl)
  | _ => rfl

theorem answer_operator_of_ne {o : Operator} (h : ∀ rest, ts ≠ .operator o :: rest) :
    grammar.answer (.operator o) ts = .fail ts := by
  refine answer_token_of_ne fun t rest hts => ?_
  subst hts
  cases t with
  | operator o' => exact beq_false_of_ne fun ho => h rest (ho ▸ rfl)
  | _ => rfl

theorem answer_delimiter_of_ne {d : Delimiter} (h : ∀ rest, ts ≠ .delimiter d :: rest) :
    grammar.answer (.delimiter d) ts = .fail ts := by
  refine answer_token_of_ne fun t rest hts => ?_
  subst hts
  cases t with
  | delimiter d' => exact beq_false_of_ne fun hd => h rest (hd ▸ rfl)
  | _ => rfl

end Terminals

end Rulebook.Syntax
