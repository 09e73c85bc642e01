import Rulebook.Decision.Basic
import Rulebook.Engine.Sources
import Rulebook.Eval.Cell

/-!
Evaluating a table: inputs are observed once, rules are tested in their order, and the outputs of
the rules that match are evaluated for the hit policy to choose from.
-/

namespace Rulebook

open Syntax (inputName)

abbrev Observed := Except SourceError Value

namespace Column

-- An input without an expression observes what its identifier says.
def source (c : Column) : String :=
  if Text.isAllBlank c.expression then c.id else c.expression

def observe (r : Registry) (context : Context) (c : Column) : WithSources Observed := do
  match ← Sources.expression c.source with
  | .error e => return .error (.parse e)
  | .ok e => return evaluateParsed r e context

end Column

-- Such an entry matches whatever the input is.
def isWildcard (entry : String) : Bool :=
  Text.isAllBlank entry || Text.trim entry == "-"

-- A text between quotes is meant without them.
def unquoted (text : String) : String :=
  match text.toList with
  | '"' :: rest =>
    if rest.getLast? == some '"' then String.ofList rest.dropLast else text
  | _ => text

namespace Expr

-- The names of an expression that is made of names and operators only.
def freeNames? : Expr → Option (List String)
  | .reference path => some [path]
  | .binary _ left right => do
    let l ← freeNames? left
    let r ← freeNames? right
    some (l ++ r)
  | .unary _ operand => freeNames? operand
  | _ => none

end Expr

def firstSegment (path : String) : String :=
  String.ofList (path.toList.takeWhile (· != '.'))

def isUnbound (context : Context) (path : String) : Bool :=
  path != inputName && !context.contains path && !context.contains (firstSegment path)

-- Words that mean nothing in the context are free text, even if they look like an expression.
def isFreeText (e : Expr) (context : Context) : Bool :=
  match e.freeNames? with
  | some names => names.all (isUnbound context)
  | none => false

section

variable (r : Registry) (context : Context)

-- How a cell that is no wildcard tests the value of its input.
def testCell (column : Column) (cell : String) : Observed → WithSources (Except SourceError Bool)
  | .error e => return .error e
  | .ok v => do
    match ← Sources.cell cell with
    | .error e => return .error (.parse e)
    | .ok c => return (c.matches? r v [column.id, column.label] context).mapError .eval

def traceCell (column : Column) (entry : String) (observed : Observed) :
    WithSources CellTrace := do
  let trace (isMatch : Bool) (error : Option SourceError) : CellTrace :=
    ⟨column.id, entry, (observed.toOption).getD .null, isMatch, error⟩
  if isWildcard entry then return trace true none
  match ← testCell r context column (Text.trim entry) observed with
  | .ok isMatch => return trace isMatch none
  | .error e => return trace false (some e)

def traceCells : List (Column × String × Observed) → WithSources (List CellTrace)
  | [] => return []
  | (column, entry, observed) :: rest => do
    let first ← traceCell r context column entry observed
    let others ← traceCells rest
    return first :: others

-- All cells of a rule are traced, also behind one that does not match.
def traceRule (inputs : List Column) (observed : List Observed) (rule : Rule) :
    WithSources RuleTrace := do
  let cells ← traceCells r context (inputs.zip (rule.inputs.zip observed))
  return ⟨rule.id, cells.all (·.isMatch), cells⟩

-- The trace of the rules, and those that match.
def traceRules (policy : HitPolicy) (inputs : List Column) (observed : List Observed) :
    List Rule → WithSources (List RuleTrace × List Rule)
  | [] => return ([], [])
  | rule :: rules => do
    let trace ← traceRule r context inputs observed rule
    if trace.isMatch && policy.stopsAtFirstMatch then return ([trace], [rule])
    let (traces, found) ← traceRules policy inputs observed rules
    return (trace :: traces, if trace.isMatch then rule :: found else found)

def observeAll : List Column → WithSources (List Observed)
  | [] => return []
  | c :: cs => do
    let first ← c.observe r context
    let others ← observeAll cs
    return first :: others

-- An empty entry means the expression of its column. What is no expression is text.
def outputCell (column : Column) (entry : String) : WithSources (Outcome Value) := do
  let text := if Text.isAllBlank entry then Text.trim column.expression else Text.trim entry
  if text.isEmpty then return .ok .null
  match ← Sources.expression text with
  | .error _ => return .ok (.string (unquoted text))
  | .ok e =>
    match evaluate r e context with
    | .error fault => return .error fault
    | .ok v => return .ok (if v.isNull && isFreeText e context then .string text else v)

abbrev Evaluation := ExceptT DecisionError WithSources

def ruleCell (rule : Rule) (column : Column) (entry : String) : Evaluation Value := do
  match ← outputCell r context column entry with
  | .ok v => return v
  | .error e => throw (.output rule.id column.id e)

def ruleEntries (rule : Rule) (done : Context) : List (Column × String) → Evaluation Context
  | [] => return done
  | (column, entry) :: rest => do
    let v ← ruleCell r context rule column entry
    ruleEntries rule (done.insert column.name v) rest

-- A table with one output column gives the value itself, one with several a context.
def ruleOutput (outputs : List Column) (rule : Rule) : Evaluation Value := do
  match outputs.zip rule.outputs with
  | [(column, entry)] => ruleCell r context rule column entry
  | cells => return .context (← ruleEntries r context rule .empty cells)

def ruleMatches (outputs : List Column) : List Rule → Evaluation (List Match)
  | [] => return []
  | rule :: rules => do
    let output ← ruleOutput r context outputs rule
    let others ← ruleMatches outputs rules
    return ⟨rule.id, output⟩ :: others

def obeying {α : Type} : Except Violation α → Evaluation α
  | .ok a => return a
  | .error v => throw (.violation v)

def Table.decide (t : Table) : Evaluation Decision := do
  let observed ← observeAll r context t.inputs
  let (trace, found) ← traceRules r context t.policy t.inputs observed t.rules
  obeying (t.policy.checkCount (found.map (·.id)))
  let candidates ← ruleMatches r context t.outputs found
  let resolution ← obeying (t.policy.resolve candidates)
  return ⟨t.id, t.policy, resolution.output, resolution.rules, resolution.collected, trace⟩

end

end Rulebook
