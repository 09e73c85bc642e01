import Rulebook.Number.Reading
import Rulebook.Text.Quoted

/-!
Tokens of the expression language, their written forms, and their places in a text.
-/

namespace Rulebook.Syntax

inductive Keyword
  | and | or | not | if | then | else | for | in | return | some | every | satisfies
  | between | instanceWord | of | true | false | null
  deriving DecidableEq, Repr

namespace Keyword

def text : Keyword → String
  | .and => "and"
  | .or => "or"
  | .not => "not"
  | .if => "if"
  | .then => "then"
  | .else => "else"
  | .for => "for"
  | .in => "in"
  | .return => "return"
  | .some => "some"
  | .every => "every"
  | .satisfies => "satisfies"
  | .between => "between"
  | .instanceWord => "instance"
  | .of => "of"
  | .true => "true"
  | .false => "false"
  | .null => "null"

def all : List Keyword :=
  [.and, .or, .not, .if, .then, .else, .for, .in, .return, .some, .every, .satisfies,
   .between, .instanceWord, .of, .true, .false, .null]

def ofText? (s : String) : Option Keyword :=
  all.find? (·.text == s)

theorem ofText?_text (k : Keyword) : ofText? k.text = Option.some k := by
  cases k <;> decide

end Keyword

inductive Operator
  | dot | range | equal | notEqual | greater | greaterEqual | less | lessEqual
  | plus | minus | times | divide | modulo | power
  deriving DecidableEq, Repr

def Operator.text : Operator → String
  | dot => "."
  | range => ".."
  | equal => "="
  | notEqual => "!="
  | greater => ">"
  | greaterEqual => ">="
  | less => "<"
  | lessEqual => "<="
  | plus => "+"
  | minus => "-"
  | times => "*"
  | divide => "/"
  | modulo => "%"
  | power => "**"

inductive Delimiter
  | openBrace | closeBrace | openParen | closeParen | openBracket | closeBracket | comma | colon
  deriving DecidableEq, Repr

def Delimiter.text : Delimiter → String
  | openBrace => "\x7b"
  | closeBrace => "\x7d"
  | openParen => "("
  | closeParen => ")"
  | openBracket => "["
  | closeBracket => "]"
  | comma => ","
  | colon => ":"

inductive Token
  | keyword (k : Keyword)
  | identifier (name : String)
  | operator (o : Operator)
  | delimiter (d : Delimiter)
  | number (x : Float)
  | string (s : String)
  | whitespace (s : String)
  | newline
  | lineComment (content : String)
  | blockComment (content : String)

namespace Token

def isTrivia : Token → Bool
  | whitespace _ | newline | lineComment _ | blockComment _ => true
  | _ => false

-- How a token is shown. A comment of either kind is shown as a block comment.
def text : Token → String
  | keyword k => k.text
  | identifier name => name
  | operator o => o.text
  | delimiter d => d.text
  | number x => Number.text x
  | string s => Text.quoted s
  | whitespace s => s
  | newline => "\n"
  | lineComment content => "/*" ++ content ++ "*/"
  | blockComment content => "/*" ++ content ++ "*/"

end Token

-- The offset counts UTF-8 bytes from 0; line and column count from 1, the column in characters.
structure Place where
  offset : Nat
  line : Nat
  column : Nat
  deriving DecidableEq, Repr

namespace Place

def start : Place := ⟨0, 1, 1⟩

def next (p : Place) (c : Char) : Place :=
  if c = '\n' then ⟨p.offset + c.utf8Size, p.line + 1, 1⟩
  else ⟨p.offset + c.utf8Size, p.line, p.column + 1⟩

def advance (p : Place) (cs : List Char) : Place :=
  cs.foldl next p

theorem advance_append (p : Place) (as bs : List Char) :
    p.advance (as ++ bs) = (p.advance as).advance bs :=
  List.foldl_append ..

end Place

-- A token with the place where it starts and the offset where it stops.
structure Lexeme where
  token : Token
  place : Place
  stop : Nat

end Rulebook.Syntax
