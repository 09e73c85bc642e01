import Rulebook.Syntax.Token

/-!
Expressions, and the tests of a table cell. Two forms are kept canonical by the functions that
build them: a negated number is a number, and names joined by points are one dotted path.
-/

namespace Rulebook

inductive Literal
  | number (x : Float)
  | string (s : String)
  | boolean (b : Bool)
  | null

namespace Literal

def text : Literal → String
  | number x => Number.text x
  | string s => Text.quoted s
  | boolean b => if b then "true" else "false"
  | null => "null"

end Literal

inductive BinaryOp
  | add | subtract | multiply | divide | modulo | power
  | equal | notEqual | less | greater | lessEqual | greaterEqual
  | and | or | isIn
  deriving DecidableEq, Repr

namespace BinaryOp

def text : BinaryOp → String
  | .add => "+"
  | .subtract => "-"
  | .multiply => "*"
  | .divide => "/"
  | .modulo => "%"
  | .power => "**"
  | .equal => "="
  | .notEqual => "!="
  | .less => "<"
  | .greater => ">"
  | .lessEqual => "<="
  | .greaterEqual => ">="
  | .and => "and"
  | .or => "or"
  | .isIn => "in"

end BinaryOp

inductive UnaryOp
  | negate
  | not
  deriving DecidableEq, Repr

def UnaryOp.text : UnaryOp → String
  | .negate => "-"
  | .not => "not"

inductive Quantifier
  | some
  | every
  deriving DecidableEq, Repr

def Quantifier.text : Quantifier → String
  | .some => "some"
  | .every => "every"

inductive Expr
  | literal (l : Literal)
  | reference (path : String)
  | binary (op : BinaryOp) (left right : Expr)
  | unary (op : UnaryOp) (operand : Expr)
  | range (lower upper : Expr) (lowerIncluded upperIncluded : Bool)
  | list (items : List Expr)
  | context (entries : List (String × Expr))
  | call (function : String) (arguments : List Expr)
  | property (base : Expr) (key : String)
  | conditional (condition yes no : Expr)
  | loop (name : String) (source body : Expr)
  | quantified (quantifier : Quantifier) (name : String) (source predicate : Expr)
  | between (operand lower upper : Expr)
  | instanceOf (operand : Expr) (typeName : String)
  | filter (base predicate : Expr)

namespace Expr

instance : Inhabited Expr := ⟨literal .null⟩

def negated : Expr → Expr
  | literal (.number x) => literal (.number (-x))
  | e => unary .negate e

def member (base : Expr) (key : String) : Expr :=
  match base with
  | reference path => reference (path ++ "." ++ key)
  | e => property e key

mutual

-- Every referenced path in the expression, in the order of reading.
def paths : Expr → List String
  | literal _ => []
  | reference path => [path]
  | binary _ l r => paths l ++ paths r
  | unary _ e => paths e
  | range l u _ _ => paths l ++ paths u
  | list items => itemPaths items
  | context entries => entryPaths entries
  | call _ arguments => itemPaths arguments
  | property base _ => paths base
  | conditional c y n => paths c ++ paths y ++ paths n
  | loop _ s b => paths s ++ paths b
  | quantified _ _ s p => paths s ++ paths p
  | between e l u => paths e ++ paths l ++ paths u
  | instanceOf e _ => paths e
  | filter b p => paths b ++ paths p

def itemPaths : List Expr → List String
  | [] => []
  | e :: es => paths e ++ itemPaths es

def entryPaths : List (String × Expr) → List String
  | [] => []
  | (_, e) :: es => paths e ++ entryPaths es

end

-- The path is the name, or starts at it.
def pathMentions (name path : String) : Bool :=
  path == name || (name.toList ++ ['.']).isPrefixOf path.toList

def mentions (e : Expr) (name : String) : Bool :=
  e.paths.any (pathMentions name)

end Expr

-- A comparison has the input on its left.
inductive CellTest
  | comparison (op : BinaryOp) (value : Expr)
  | expression (e : Expr)

inductive Cell
  | any
  | tests (negated : Bool) (tests : List CellTest)

end Rulebook
