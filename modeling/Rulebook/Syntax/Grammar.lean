import Rulebook.Syntax.Expr

/-!
The grammar of expressions and cells over lists of tokens. A rule takes its tokens from the front
of the list; one token decides which way it goes, so a failure is that of the only way there is.
From the loosest binding to the tightest: `or`; `and`; `not`; comparisons, `in`, `between` and
`instance of`; `+ -`; `* / %`; `**`; unary minus; `.key` and `[filter]`; everything else.
-/

namespace Rulebook.Syntax

inductive Expected
  | token (t : Token)
  | otherToken
  | endOfInput

-- The rule that a failure is reported for, the innermost one that has a name.
inductive Rule
  | identifier
  | keyword (k : Keyword)
  | postfixForm
  | listOrInterval
  | interval
  | intervalEnd
  | functionCall
  | contextLiteral
  | cell

-- The tokens from the offending one on. If nothing in particular was expected, no form of the
-- language starts with that token.
structure Failure where
  rest : List Token
  expected : Option Expected
  rule : Option Rule

-- A success takes at least one of `n` tokens.
inductive Reply (α : Type) (n : Nat)
  | ok (value : α) (rest : List Token) (shorter : rest.length < n)
  | fail (failure : Failure)

namespace Reply

variable {α β : Type} {n m : Nat}

def andThen (r : Reply α n) (f : (value : α) → (rest : List Token) → rest.length < n → Reply β m) :
    Reply β m :=
  match r with
  | ok value rest h => f value rest h
  | fail failure => fail failure

def map (f : α → β) : Reply α n → Reply β n
  | ok value rest h => ok (f value) rest h
  | fail failure => fail failure

def widen (h : n ≤ m) : Reply α n → Reply α m
  | ok value rest h' => ok value rest (Nat.lt_of_lt_of_le h' h)
  | fail failure => fail failure

end Reply

def noAlternative {α : Type} {n : Nat} (ts : List Token) : Reply α n :=
  .fail ⟨ts, none, none⟩

-- One given token.
def token (ts : List Token) (matches? : Token → Bool) (expected : Token) (rule : Option Rule) :
    Reply Unit ts.length :=
  match ts with
  | t :: rest =>
    if matches? t then .ok () rest (Nat.lt_succ_self _)
    else .fail ⟨t :: rest, some (.token expected), rule⟩
  | [] => .fail ⟨[], some (.token expected), rule⟩

def keyword (k : Keyword) (ts : List Token) : Reply Unit ts.length :=
  token ts (fun | .keyword k' => k' == k | _ => false) (.keyword k) (some (.keyword k))

def delimiter (d : Delimiter) (rule : Option Rule) (ts : List Token) : Reply Unit ts.length :=
  token ts (fun | .delimiter d' => d' == d | _ => false) (.delimiter d) rule

def operator (o : Operator) (rule : Option Rule) (ts : List Token) : Reply Unit ts.length :=
  token ts (fun | .operator o' => o' == o | _ => false) (.operator o) rule

def identifier : (ts : List Token) → Reply String ts.length
  | .identifier name :: rest => .ok name rest (Nat.lt_succ_self _)
  | ts => .fail ⟨ts, some .otherToken, some .identifier⟩

-- Whether the end of an interval belongs to it.
def intervalEnd : (ts : List Token) → Reply Bool ts.length
  | .delimiter .closeBracket :: rest => .ok true rest (Nat.lt_succ_self _)
  | .delimiter .closeParen :: rest => .ok false rest (Nat.lt_succ_self _)
  | ts => .fail ⟨ts, some .otherToken, some .intervalEnd⟩

def typeName : (ts : List Token) → Reply String ts.length
  | .identifier name :: rest => .ok name rest (Nat.lt_succ_self _)
  | .keyword .null :: rest => .ok "null" rest (Nat.lt_succ_self _)
  | ts => noAlternative ts

def contextKey : (ts : List Token) → Reply String ts.length
  | .identifier name :: rest => .ok name rest (Nat.lt_succ_self _)
  | .string s :: rest => .ok s rest (Nat.lt_succ_self _)
  | ts => noAlternative ts

def comparisonOp? : Token → Option BinaryOp
  | .operator .equal => some .equal
  | .operator .notEqual => some .notEqual
  | .operator .less => some .less
  | .operator .lessEqual => some .lessEqual
  | .operator .greater => some .greater
  | .operator .greaterEqual => some .greaterEqual
  | .keyword .in => some .isIn
  | _ => none

def literal? : Token → Option Literal
  | .number x => some (.number x)
  | .string s => some (.string s)
  | .keyword .true => some (.boolean true)
  | .keyword .false => some (.boolean false)
  | .keyword .null => some .null
  | _ => none

-- The levels whose operators group to the left.
inductive Chain
  | disjunction
  | conjunction
  | additive
  | multiplicative
  deriving DecidableEq

namespace Chain

def op? : Chain → Token → Option BinaryOp
  | disjunction, .keyword .or => some .or
  | conjunction, .keyword .and => some .and
  | additive, .operator .plus => some .add
  | additive, .operator .minus => some .subtract
  | multiplicative, .operator .times => some .multiply
  | multiplicative, .operator .divide => some .divide
  | multiplicative, .operator .modulo => some .modulo
  | _, _ => none

-- Together with the number of tokens this bounds the recursion.
def rank : Chain → Nat
  | disjunction => 15
  | conjunction => 13
  | additive => 8
  | multiplicative => 6

end Chain

mutual

def expression (ts : List Token) : Reply Expr ts.length :=
  chain .disjunction ts
termination_by 20 * ts.length + 16
decreasing_by simp only [Chain.rank]; omega

def chain (c : Chain) (ts : List Token) : Reply Expr ts.length :=
  (operand c ts).andThen fun left rest _ => (chainTail c left rest).widen (by omega)
termination_by 20 * ts.length + c.rank
decreasing_by all_goals cases c <;> simp only [Chain.rank] <;> omega

def operand (c : Chain) (ts : List Token) : Reply Expr ts.length :=
  match c with
  | .disjunction => chain .conjunction ts
  | .conjunction => negation ts
  | .additive => chain .multiplicative ts
  | .multiplicative => power ts
termination_by 20 * ts.length + (c.rank - 1)
decreasing_by all_goals simp only [Chain.rank]; omega

def chainTail (c : Chain) (left : Expr) (ts : List Token) : Reply Expr (ts.length + 1) :=
  match ts with
  | [] => .ok left [] (by simp)
  | t :: rest =>
    match c.op? t with
    | none => .ok left (t :: rest) (by simp)
    | some op =>
      (operand c rest).andThen fun right rest' _ =>
        (chainTail c (.binary op left right) rest').widen (by simp only [List.length_cons]; omega)
termination_by 20 * ts.length
decreasing_by all_goals cases c <;> simp only [List.length_cons, Chain.rank] <;> omega

def negation (ts : List Token) : Reply Expr ts.length :=
  match ts with
  | .keyword .not :: rest =>
    ((negation rest).map (.unary .not)).widen (by simp)
  | ts => comparison ts
termination_by 20 * ts.length + 11

def sum (ts : List Token) : Reply Expr ts.length :=
  chain .additive ts
termination_by 20 * ts.length + 9
decreasing_by simp only [Chain.rank]; omega

def comparison (ts : List Token) : Reply Expr ts.length :=
  (sum ts).andThen fun left rest _ => (comparisonTail left rest).widen (by omega)
termination_by 20 * ts.length + 10

-- At most one comparison follows an operand.
def comparisonTail (left : Expr) (ts : List Token) : Reply Expr (ts.length + 1) :=
  match ts with
  | .keyword .between :: rest =>
    (sum rest).andThen fun lower rest _ =>
      (keyword .and rest).andThen fun _ rest _ =>
        ((sum rest).map (.between left lower)).widen
          (by simp only [List.length_cons]; omega)
  | .keyword .instanceWord :: rest =>
    (keyword .of rest).andThen fun _ rest _ =>
      ((typeName rest).map (.instanceOf left)).widen (by simp only [List.length_cons]; omega)
  | t :: rest =>
    match comparisonOp? t with
    | none => .ok left (t :: rest) (by simp)
    | some op =>
      ((sum rest).map (.binary op left)).widen (by simp only [List.length_cons]; omega)
  | [] => .ok left [] (by simp)
termination_by 20 * ts.length

def power (ts : List Token) : Reply Expr ts.length :=
  (negative ts).andThen fun base rest _ => (powerTail base rest).widen (by omega)
termination_by 20 * ts.length + 4

-- Powers group to the right.
def powerTail (base : Expr) (ts : List Token) : Reply Expr (ts.length + 1) :=
  match ts with
  | .operator .power :: rest =>
    ((power rest).map (.binary .power base)).widen (by simp only [List.length_cons]; omega)
  | ts => .ok base ts (by simp)
termination_by 20 * ts.length

def negative (ts : List Token) : Reply Expr ts.length :=
  match ts with
  | .operator .minus :: rest => ((negative rest).map Expr.negated).widen (by simp)
  | ts => postfixed ts
termination_by 20 * ts.length + 3

def postfixed (ts : List Token) : Reply Expr ts.length :=
  (primary ts).andThen fun base rest _ => (suffixes base rest).widen (by omega)
termination_by 20 * ts.length + 2

def suffixes (base : Expr) (ts : List Token) : Reply Expr (ts.length + 1) :=
  match ts with
  | .operator .dot :: rest =>
    (identifier rest).andThen fun key rest _ =>
      (suffixes (base.member key) rest).widen (by simp only [List.length_cons]; omega)
  | .delimiter .openBracket :: rest =>
    (expression rest).andThen fun predicate rest _ =>
      (delimiter .closeBracket (some .postfixForm) rest).andThen fun _ rest _ =>
        (suffixes (.filter base predicate) rest).widen (by simp only [List.length_cons]; omega)
  | ts => .ok base ts (by simp)
termination_by 20 * ts.length

def primary (ts : List Token) : Reply Expr ts.length :=
  match ts with
  | .keyword .if :: rest =>
    (expression rest).andThen fun condition rest _ =>
      (keyword .then rest).andThen fun _ rest _ =>
        (expression rest).andThen fun yes rest _ =>
          (keyword .else rest).andThen fun _ rest _ =>
            ((expression rest).map (.conditional condition yes)).widen
              (by simp only [List.length_cons]; omega)
  | .keyword .for :: rest =>
    (identifier rest).andThen fun name rest _ =>
      (keyword .in rest).andThen fun _ rest _ =>
        (expression rest).andThen fun source rest _ =>
          (keyword .return rest).andThen fun _ rest _ =>
            ((expression rest).map (.loop name source)).widen
              (by simp only [List.length_cons]; omega)
  | .keyword .some :: rest => (quantified .some rest).widen (by simp)
  | .keyword .every :: rest => (quantified .every rest).widen (by simp)
  | .delimiter .openParen :: rest =>
    (expression rest).andThen fun inner rest _ =>
      (parenTail inner rest).widen (by simp only [List.length_cons]; omega)
  | .delimiter .openBracket :: .delimiter .closeBracket :: rest =>
    .ok (.list []) rest (by simp only [List.length_cons]; omega)
  | .delimiter .openBracket :: rest =>
    (expression rest).andThen fun first rest _ =>
      (bracketTail first rest).widen (by simp only [List.length_cons]; omega)
  | .delimiter .closeBracket :: rest =>
    (expression rest).andThen fun lower rest _ =>
      (operator .range (some .interval) rest).andThen fun _ rest _ =>
        (rangeTail lower false rest).widen (by simp only [List.length_cons]; omega)
  | .delimiter .openBrace :: rest =>
    (entries rest).andThen fun entries rest _ =>
      (delimiter .closeBrace (some .contextLiteral) rest).andThen fun _ rest _ =>
        .ok (.context entries) rest (by simp only [List.length_cons]; omega)
  | .identifier name :: .delimiter .openParen :: rest =>
    (arguments rest).andThen fun arguments rest _ =>
      (delimiter .closeParen (some .functionCall) rest).andThen fun _ rest _ =>
        .ok (.call name arguments) rest (by simp only [List.length_cons]; omega)
  | .identifier name :: rest => .ok (.reference name) rest (by simp)
  | t :: rest =>
    match literal? t with
    | some l => .ok (.literal l) rest (by simp)
    | none => noAlternative (t :: rest)
  | [] => noAlternative []
termination_by 20 * ts.length + 1

def quantified (quantifier : Quantifier) (ts : List Token) : Reply Expr ts.length :=
  (identifier ts).andThen fun name rest _ =>
    (keyword .in rest).andThen fun _ rest _ =>
      (expression rest).andThen fun source rest _ =>
        (keyword .satisfies rest).andThen fun _ rest _ =>
          ((expression rest).map (.quantified quantifier name source)).widen (by omega)
termination_by 20 * ts.length

-- What follows the two points of an interval.
def rangeTail (lower : Expr) (lowerIncluded : Bool) (ts : List Token) : Reply Expr ts.length :=
  (expression ts).andThen fun upper rest _ =>
    ((intervalEnd rest).map (.range lower upper lowerIncluded)).widen (by omega)
termination_by 20 * ts.length + 17

-- What follows the first expression after an opening parenthesis.
def parenTail (inner : Expr) (ts : List Token) : Reply Expr ts.length :=
  match ts with
  | .operator .range :: rest => (rangeTail inner false rest).widen (by simp)
  | .delimiter .closeParen :: rest => .ok inner rest (by simp)
  | ts => noAlternative ts
termination_by 20 * ts.length + 1

-- What follows the first expression after an opening bracket.
def bracketTail (first : Expr) (ts : List Token) : Reply Expr ts.length :=
  match ts with
  | .operator .range :: rest => (rangeTail first true rest).widen (by simp)
  | .delimiter .closeBracket :: rest => .ok (.list [first]) rest (by simp)
  | .delimiter .comma :: rest =>
    (commaItems (.delimiter .comma :: rest)).andThen fun items rest' _ =>
      (delimiter .closeBracket (some .listOrInterval) rest').andThen fun _ rest'' _ =>
        .ok (.list (first :: items)) rest'' (by omega)
  | ts => noAlternative ts
termination_by 20 * ts.length + 1

-- Expressions, each after a comma.
def commaItems (ts : List Token) : Reply (List Expr) (ts.length + 1) :=
  match ts with
  | .delimiter .comma :: rest =>
    (expression rest).andThen fun item rest _ =>
      ((commaItems rest).map (item :: ·)).widen (by simp only [List.length_cons]; omega)
  | ts => .ok [] ts (by simp)
termination_by 20 * ts.length

-- A first argument that cannot even start means that there are none.
def arguments (ts : List Token) : Reply (List Expr) (ts.length + 1) :=
  match expression ts with
  | .ok first rest _ => ((commaItems rest).map (first :: ·)).widen (by omega)
  | .fail failure =>
    if failure.rest.length < ts.length then .fail failure else .ok [] ts (by simp)
termination_by 20 * ts.length + 17

def entry (ts : List Token) : Reply (String × Expr) ts.length :=
  (contextKey ts).andThen fun key rest _ =>
    (delimiter .colon (some .contextLiteral) rest).andThen fun _ rest _ =>
      ((expression rest).map fun value => (key, value)).widen (by omega)
termination_by 20 * ts.length

def commaEntries (ts : List Token) : Reply (List (String × Expr)) (ts.length + 1) :=
  match ts with
  | .delimiter .comma :: rest =>
    (entry rest).andThen fun e rest _ =>
      ((commaEntries rest).map (e :: ·)).widen (by simp only [List.length_cons]; omega)
  | ts => .ok [] ts (by simp)
termination_by 20 * ts.length

def entries (ts : List Token) : Reply (List (String × Expr)) (ts.length + 1) :=
  match entry ts with
  | .ok first rest _ => ((commaEntries rest).map (first :: ·)).widen (by omega)
  | .fail failure =>
    if failure.rest.length < ts.length then .fail failure else .ok [] ts (by simp)
termination_by 20 * ts.length + 1

end

-- Nothing may follow.
def complete {α : Type} {n : Nat} : Reply α n → Except Failure α
  | .ok value [] _ => .ok value
  | .ok _ rest _ => .error ⟨rest, some .endOfInput, none⟩
  | .fail failure => .error failure

def completeExpression (ts : List Token) : Except Failure Expr :=
  complete (expression ts)

-- A comparison operator in front makes the input its left operand. Membership is no such operator.
def cellTest (ts : List Token) : Reply CellTest ts.length :=
  match ts with
  | .operator o :: rest =>
    match comparisonOp? (.operator o) with
    | some op => ((expression rest).map (.comparison op)).widen (by simp)
    | none => (expression (.operator o :: rest)).map .expression
  | ts => (expression ts).map .expression

def commaTests (ts : List Token) : Reply (List CellTest) (ts.length + 1) :=
  match ts with
  | .delimiter .comma :: rest =>
    (cellTest rest).andThen fun test rest _ =>
      ((commaTests rest).map (test :: ·)).widen (by simp only [List.length_cons]; omega)
  | ts => .ok [] ts (by simp)
termination_by ts.length
decreasing_by simp only [List.length_cons]; omega

def cellTests (ts : List Token) : Reply (List CellTest) ts.length :=
  (cellTest ts).andThen fun test rest _ =>
    ((commaTests rest).map (test :: ·)).widen (by omega)

-- A cell that is a minus sign alone.
def anyCell : List Token → Except Failure Cell
  | [.operator .minus] => .ok .any
  | .operator .minus :: rest => .error ⟨rest, some .endOfInput, none⟩
  | ts => .error ⟨ts, none, none⟩

def negatedCell : List Token → Except Failure Cell
  | .keyword .not :: .delimiter .openParen :: rest =>
    complete <| (cellTests rest).andThen (m := rest.length) fun tests rest' _ =>
      ((delimiter .closeParen none rest').map fun _ => Cell.tests true tests).widen (by omega)
  | .keyword .not :: rest => .error ⟨rest, some (.token (.delimiter .openParen)), none⟩
  | ts => .error ⟨ts, none, none⟩

def plainCell (ts : List Token) : Except Failure Cell :=
  complete ((cellTests ts).map (Cell.tests false))

-- Of two failures the one with fewer tokens left explains more; of equals the first is kept.
def Failure.furthest (a b : Failure) : Failure :=
  if b.rest.length < a.rest.length then b else a

def orElse {α : Type} (a b : Except Failure α) : Except Failure α :=
  match a, b with
  | .ok x, _ => .ok x
  | .error _, .ok y => .ok y
  | .error f, .error g => .error (f.furthest g)

-- If no way gets past the first token, none was to be expected there.
def cell (ts : List Token) : Except Failure Cell :=
  match orElse (orElse (anyCell ts) (negatedCell ts)) (plainCell ts) with
  | .ok c => .ok c
  | .error f =>
    if f.rest.length < ts.length then .error { f with rule := f.rule.or (some .cell) }
    else .error ⟨ts, none, none⟩

end Rulebook.Syntax
