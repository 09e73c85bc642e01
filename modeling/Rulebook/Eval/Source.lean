import Rulebook.Eval.Basic
import Rulebook.Syntax.ParseError

/-!
Evaluating expressions given as text.
-/

namespace Rulebook

open Syntax (ParseError parseExpression)

inductive SourceError
  | parse (e : ParseError)
  | eval (e : EvalError)

namespace SourceError

-- What went wrong, without the stage in which it did.
def cause : SourceError → String
  | parse e => e.text
  | eval e => e.message

def message : SourceError → String
  | parse e => "Parse error: " ++ e.text
  | eval e => "Eval error: " ++ e.message

end SourceError

def evaluateParsed (r : Registry) (e : Expr) (context : Context) : Except SourceError Value :=
  (evaluate r e context).mapError .eval

def evaluateText (r : Registry) (text : String) (context : Context) : Except SourceError Value := do
  let e ← (parseExpression text).mapError .parse
  evaluateParsed r e context

end Rulebook
