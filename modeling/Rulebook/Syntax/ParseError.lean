import Rulebook.Syntax.Grammar
import Rulebook.Syntax.Lexer

/-!
Parse errors: what is wrong, where in the text, and the text from there, cut short.
-/

namespace Rulebook.Syntax

inductive ParseCause
  | unrecognized (c : Option Char)
  | emptyText
  | noAlternative (found : Option Token)
  | expected (expected : Expected) (found : Option Token) (rule : Option Rule)

structure ParseError where
  cause : ParseCause
  fragment : String
  place : Place

def Expected.text : Expected → String
  | .token t => "`" ++ t.text ++ "`"
  | .otherToken => "matching token"
  | .endOfInput => "end of input"

def Rule.text : Rule → String
  | .identifier => "identifier"
  | .keyword k => "keyword " ++ k.text
  | .postfixForm => "postfix"
  | .listOrInterval => "list or interval"
  | .interval => "interval"
  | .intervalEnd => "interval end"
  | .functionCall => "function call"
  | .contextLiteral => "context literal"
  | .cell => "unary tests"

def ParseCause.message : ParseCause → String
  | .unrecognized c => "unrecognized input `" ++ String.ofList c.toList ++ "`"
  | .emptyText => "empty expression"
  | .noAlternative (some t) => "unexpected `" ++ t.text ++ "`"
  | .noAlternative none => "unexpected end of input"
  | .expected e found rule =>
    let complaint :=
      match found with
      | some t => "expected " ++ e.text ++ ", found `" ++ t.text ++ "`"
      | none => "unexpected end of input, expected " ++ e.text
    match rule with
    | some r => complaint ++ " in " ++ r.text
    | none => complaint

namespace ParseError

def message (e : ParseError) : String := e.cause.message

def text (e : ParseError) : String :=
  e.message ++ " at line " ++ toString e.place.line ++ ", column " ++ toString e.place.column ++
    " (near `" ++ e.fragment ++ "`)"

-- The characters before the byte offset, and those from it on.
def splitAt (offset : Nat) : List Char → List Char × List Char
  | [] => ([], [])
  | c :: cs =>
    if offset = 0 then ([], c :: cs)
    else
      let (before, after) := splitAt (offset - c.utf8Size) cs
      (c :: before, after)

def atOffset (text : String) (offset : Nat) (cause : ParseCause) : ParseError :=
  let (before, after) := splitAt offset text.toList
  ⟨cause, Text.firstChars fragmentLength after, Place.start.advance before⟩

def ofLexError (e : LexError) : ParseError :=
  ⟨.unrecognized e.found.toList.head?, e.found, e.place⟩

-- A failure with no token left is placed at the end of the text.
def ofFailure (text : String) (lexemes : List Lexeme) (f : Failure) : ParseError :=
  let offset :=
    match lexemes.drop (lexemes.length - f.rest.length) with
    | lexeme :: _ => lexeme.place.offset
    | [] => text.utf8ByteSize
  let cause :=
    match f.expected with
    | none => .noAlternative f.rest.head?
    | some e => .expected e f.rest.head? f.rule
  atOffset text offset cause

end ParseError

def significant (lexemes : List Lexeme) : List Lexeme :=
  lexemes.filter (!·.token.isTrivia)

-- A text with no token but blanks and comments is empty.
def parseWith {α : Type} (grammar : List Token → Except Failure α) (text : String) :
    Except ParseError α :=
  match lexemes text with
  | .error e => .error (.ofLexError e)
  | .ok all =>
    let lexemes := significant all
    if lexemes.isEmpty then .error (.atOffset text 0 .emptyText)
    else (grammar (lexemes.map (·.token))).mapError (.ofFailure text lexemes)

def parseExpression (text : String) : Except ParseError Expr :=
  parseWith completeExpression text

def parseCell (text : String) : Except ParseError Cell :=
  parseWith cell text

end Rulebook.Syntax
