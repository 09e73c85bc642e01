import Rulebook.Decision.Resolution
import Rulebook.Eval.Source

/-!
Decisions, with the trace of the rules that were looked at.
-/

namespace Rulebook

structure CellTrace where
  input : String
  entry : String
  -- Null if the input could not be observed.
  observed : Value
  isMatch : Bool
  -- Why the cell could not be tested; it does not match then.
  error : Option SourceError

structure RuleTrace where
  rule : String
  isMatch : Bool
  cells : List CellTrace

structure Decision where
  table : String
  policy : HitPolicy
  -- Nothing if no rule matched under a policy that allows it.
  output : Option Value
  rules : List String
  collected : Option (List Match)
  trace : List RuleTrace

def Decision.value (d : Decision) : Value := d.output.getD .null

inductive DecisionError
  | violation (v : Violation)
  | output (rule column : String) (e : EvalError)

def DecisionError.message : DecisionError → String
  | violation v => v.message
  | output rule column e =>
    "output " ++ column ++ " of rule " ++ rule ++ " cannot be evaluated: " ++ e.message

end Rulebook
