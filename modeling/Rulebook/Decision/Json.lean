import Rulebook.Decision.Basic
import Rulebook.Table.Json
import Rulebook.Value.Json

/-!
Decisions as JSON.
-/

namespace Rulebook

def CellTrace.toJson (t : CellTrace) : Json :=
  let error :=
    match t.error with
    | some e => [("error", Json.string e.cause)]
    | none => []
  .object ([("input_id", .string t.input), ("entry", .string t.entry),
    ("observed", t.observed.toJson), ("matched", .bool t.isMatch)] ++ error)

def RuleTrace.toJson (t : RuleTrace) : Json :=
  .object [("rule_id", .string t.rule), ("matched", .bool t.isMatch),
    ("columns", .array (t.cells.map CellTrace.toJson))]

def Match.listToJson (found : List Match) : Json :=
  .object [("count", .integer found.length),
    ("decisions", .array (found.map (·.output.toJson))),
    ("rule_ids", .ofTexts (found.map (·.rule)))]

def Decision.toJson (d : Decision) : Json :=
  let collected :=
    match d.collected with
    | some found => [("collect", Match.listToJson found)]
    | none => []
  .object ([("decision_id", .string d.table), ("hit_policy", .string d.policy.name),
    ("output", (d.output.map Value.toJson).getD .null),
    ("matched_rules", .ofTexts d.rules)] ++ collected ++
    [("trace", .array (d.trace.map RuleTrace.toJson))])

end Rulebook
