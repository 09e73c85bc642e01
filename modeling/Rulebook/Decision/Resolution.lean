import Rulebook.Table.Basic
import Rulebook.Value.Text

/-!
The decision that a hit policy takes from the rules that match.
-/

namespace Rulebook

-- A rule that matches, with its output.
structure Match where
  rule : String
  output : Value

inductive Violation
  | noMatch
  | multipleMatches (rules : List String)
  | conflictingOutputs (found : List Match)

namespace Violation

def matchText (m : Match) : String := m.rule ++ " => " ++ m.output.text

def message : Violation → String
  | noMatch => "hit policy UNIQUE: none matched"
  | multipleMatches rules =>
    "hit policy UNIQUE: " ++ toString rules.length ++ " rules matched (" ++
      Text.joined ", " rules ++ ")"
  | conflictingOutputs found =>
    "hit policy ANY: matching rules disagree (" ++ Text.joined ", " (found.map matchText) ++ ")"

end Violation

structure Resolution where
  output : Option Value
  rules : List String
  -- All matches, where the policy reports them.
  collected : Option (List Match)

namespace HitPolicy

-- Whether so many rules may match, before any output is looked at.
def checkCount (policy : HitPolicy) (rules : List String) : Except Violation Unit :=
  match policy, rules with
  | unique, [] => .error .noMatch
  | unique, [_] => .ok ()
  | unique, rules => .error (.multipleMatches rules)
  | _, _ => .ok ()

-- Each output equals the next one.
def agree : List Match → Bool
  | m :: n :: rest => m.output == n.output && agree (n :: rest)
  | _ => true

def resolve (policy : HitPolicy) (found : List Match) : Except Violation Resolution :=
  let output := (found.head?).map (·.output)
  let rules := found.map (·.rule)
  match policy with
  | unique | first | priority => .ok ⟨output, rules.take 1, none⟩
  | any => if agree found then .ok ⟨output, rules, none⟩ else .error (.conflictingOutputs found)
  | collect => .ok ⟨output, rules, some found⟩

end HitPolicy

end Rulebook
