import Rulebook.Table.HitPolicy

/-!
Decision tables. A table has an identifier, at least one output column, no two columns or rules of
one identifier, and in every rule one entry for each column.
-/

namespace Rulebook

-- The expression of an input column gives the value that its cells test; that of an output column
-- stands for empty cells.
structure Column where
  id : String
  label : String
  expression : String
  deriving DecidableEq, Hashable, Repr

namespace Column

-- An input that observes what the context holds under its name.
def input (name : String) : Column := ⟨name, name, name⟩

def output (name : String) : Column := ⟨name, name, ""⟩

def name (c : Column) : String :=
  if c.label.isEmpty then c.id else c.label

end Column

structure Rule where
  id : String
  inputs : List String
  outputs : List String
  deriving DecidableEq, Hashable, Repr

-- What identifiers belong to.
inductive Part
  | table
  | input
  | output
  | rule
  deriving DecidableEq, Repr

def Part.name : Part → String
  | .table => "decision table"
  | .input => "input"
  | .output => "output"
  | .rule => "rule"

inductive TableFault
  | unknownHitPolicy (name : String)
  | emptyId (part : Part)
  | duplicateId (part : Part) (id : String)
  | noOutputs (id : String)
  | wrongCount (rule : String) (part : Part) (expected actual : Nat)
  deriving DecidableEq, Repr

namespace TableFault

def message : TableFault → String
  | unknownHitPolicy name => "unknown hit policy: " ++ Text.quoted name
  | emptyId part => part.name ++ " id must not be empty"
  | duplicateId part id => "duplicate " ++ part.name ++ " id: " ++ id
  | noOutputs id => "decision table " ++ id ++ " has no output columns"
  | wrongCount rule part expected actual =>
    "rule " ++ rule ++ " has " ++ toString actual ++ " " ++ part.name ++
      " entries, table has " ++ toString expected ++ " " ++ part.name ++ " columns"

-- The first identifier that is blank or was there before.
def ofIds? (part : Part) (seen : List String) : List String → Option TableFault
  | [] => none
  | id :: ids =>
    if Text.isAllBlank id then some (emptyId part)
    else if seen.contains id then some (duplicateId part id)
    else ofIds? part (id :: seen) ids

def ofCount? (rule : String) (part : Part) (expected actual : Nat) : Option TableFault :=
  if actual = expected then none else some (wrongCount rule part expected actual)

def ofRule? (inputs outputs : Nat) (r : Rule) : Option TableFault :=
  (ofCount? r.id .input inputs r.inputs.length).or
    (ofCount? r.id .output outputs r.outputs.length)

-- The first fault of a table with these parts.
def ofParts? (id : String) (inputs outputs : List Column) (rules : List Rule) :
    Option TableFault :=
  if Text.isAllBlank id then some (emptyId .table)
  else if outputs.isEmpty then some (noOutputs id)
  else
    (ofIds? .input [] (inputs.map (·.id))).or <|
      (ofIds? .output [] (outputs.map (·.id))).or <|
        (ofIds? .rule [] (rules.map (·.id))).or <|
          rules.findSome? (ofRule? inputs.length outputs.length)

end TableFault

structure Table where
  id : String
  policy : HitPolicy
  inputs : List Column
  outputs : List Column
  rules : List Rule
  faultless : TableFault.ofParts? id inputs outputs rules = none
  deriving DecidableEq

namespace Table

def build (id : String) (policy : HitPolicy) (inputs outputs : List Column) (rules : List Rule) :
    Except TableFault Table :=
  match h : TableFault.ofParts? id inputs outputs rules with
  | none => .ok ⟨id, policy, inputs, outputs, rules, h⟩
  | some fault => .error fault

-- The policy is looked up by its name, before anything else is checked.
def buildNamed (id policy : String) (inputs outputs : List Column) (rules : List Rule) :
    Except TableFault Table :=
  match HitPolicy.ofName? policy with
  | none => .error (.unknownHitPolicy policy)
  | some policy => build id policy inputs outputs rules

theorem build_self (t : Table) : build t.id t.policy t.inputs t.outputs t.rules = .ok t := by
  have := t.faultless
  simp only [build]
  split
  · rfl
  · simp_all

instance : Hashable Table where
  hash t := hash (t.id, t.policy, t.inputs, t.outputs, t.rules)

end Table

end Rulebook
