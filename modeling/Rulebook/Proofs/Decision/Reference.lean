import Rulebook.Engine.Evaluation

/-!
What a table should decide, said without an engine: every text is read anew where it is needed, each
cell is tested on its own, and the hit policy chooses among all rules that match.
-/

namespace Rulebook

open Syntax (parseExpression parseCell)

namespace Column

variable (r : Registry) (context : Context) (c : Column) (entry : String)

def observed : Observed :=
  evaluateText r c.source context

-- Whether the entry matches, or why that cannot be told.
def testParsed (v : Value) (cell : String) : Except SourceError Bool := do
  let tests ← (parseCell cell).mapError .parse
  (tests.matches? r v [c.id, c.label] context).mapError .eval

def test : Except SourceError Bool :=
  if isWildcard entry then .ok true
  else (c.observed r context).bind fun v => c.testParsed r context v (Text.trim entry)

def accepts : Bool := (c.test r context entry).toOption.getD false

def fault? : Option SourceError :=
  match c.test r context entry with
  | .ok _ => none
  | .error e => some e

def cellTrace : CellTrace :=
  ⟨c.id, entry, (c.observed r context).toOption.getD .null, c.accepts r context entry,
    c.fault? r context entry⟩

def outputValue : Outcome Value :=
  let text := if Text.isAllBlank entry then Text.trim c.expression else Text.trim entry
  if text.isEmpty then .ok .null
  else
    match parseExpression text with
    | .error _ => .ok (.string (unquoted text))
    | .ok e =>
      (evaluate r e context).map fun v =>
        if v.isNull && isFreeText e context then .string text else v

end Column

namespace Rule

variable (r : Registry) (context : Context) (rule : Rule) (column : Column) (entry : String)

def output : Except DecisionError Value :=
  (column.outputValue r context entry).mapError (.output rule.id column.id)

def namedOutput : Except DecisionError (String × Value) :=
  (rule.output r context column entry).map fun v => (column.name, v)

end Rule

namespace Table

variable (r : Registry) (context : Context) (t : Table)

-- Every input column has an entry in the rule, and the entry matches.
def applies (rule : Rule) : Bool :=
  (List.range t.inputs.length).all fun i =>
    match t.inputs[i]?, rule.inputs[i]? with
    | some column, some entry => column.accepts r context entry
    | _, _ => false

def applicable : List Rule := t.rules.filter (t.applies r context)

def ruleTrace (rule : Rule) : RuleTrace :=
  let cells := t.inputs.mapIdx fun i column => column.cellTrace r context (rule.inputs.getD i "")
  ⟨rule.id, t.applies r context rule, cells⟩

-- The rules up to and including the first that matches.
def upToFirst : List Rule :=
  t.rules.take (t.rules.findIdx (t.applies r context) + 1)

-- One output column gives a value, several a context with one entry for each of their names.
def outputOf (rule : Rule) : Except DecisionError Value :=
  match t.outputs with
  | [column] => rule.output r context column (rule.outputs.getD 0 "")
  | columns =>
    let cells := columns.mapIdx fun i column => (column, rule.outputs.getD i "")
    (cells.mapM fun c => rule.namedOutput r context c.1 c.2).map fun values =>
      .context (Context.ofList values)

def matchOf (rule : Rule) : Except DecisionError Match :=
  (t.outputOf r context rule).map fun output => ⟨rule.id, output⟩

def decision : Except DecisionError Decision :=
  let answer (found : List Match) (collected : Option (List Match)) (traced : List Rule) :
      Decision :=
    ⟨t.id, t.policy, found.head?.map (·.output), found.map (·.rule), collected,
      traced.map (t.ruleTrace r context)⟩
  match t.policy with
  | .first | .priority =>
    match t.applicable r context with
    | [] => return answer [] none t.rules
    | rule :: _ => return answer [← t.matchOf r context rule] none (t.upToFirst r context)
  | .unique =>
    match t.applicable r context with
    | [] => throw (.violation .noMatch)
    | [rule] => return answer [← t.matchOf r context rule] none t.rules
    | rules => throw (.violation (.multipleMatches (rules.map (·.id))))
  | .any => do
    let found ← (t.applicable r context).mapM (t.matchOf r context)
    if found.Pairwise (fun m n => m.output == n.output) then return answer found none t.rules
    else throw (.violation (.conflictingOutputs found))
  | .collect => do
    let found ← (t.applicable r context).mapM (t.matchOf r context)
    return answer found (some found) t.rules

end Table

end Rulebook
