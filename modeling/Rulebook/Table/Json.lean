import Rulebook.Json.Writer
import Rulebook.Table.Basic
import Rulebook.Text.Quoted

/-!
Tables and JSON. A column needs its identifier only, a rule all its fields, and a table may go
without inputs and rules. Other fields do not count. In the place of an object stands as well the
array of its fields.
-/

namespace Rulebook

-- A kind of object: what messages call it, and how many fields it has.
structure RecordKind where
  title : String
  size : Nat
  deriving DecidableEq, Repr

namespace RecordKind

def column : RecordKind := ⟨"Column", 3⟩

def rule : RecordKind := ⟨"Rule", 3⟩

def table : RecordKind := ⟨"RawDecisionTable", 5⟩

def text (k : RecordKind) : String := "struct " ++ k.title

def sizedText (k : RecordKind) : String := k.text ++ " with " ++ toString k.size ++ " elements"

end RecordKind

inductive TableReadError
  | missing (field : String)
  | wrongType (found expected : String)
  | tooFew (count : Nat) (kind : RecordKind)
  | tooMany (count : Nat)
  | fault (f : TableFault)
  deriving DecidableEq, Repr

namespace TableReadError

def message : TableReadError → String
  | missing field => "missing field " ++ "`" ++ field ++ "`"
  | wrongType found expected => "invalid type: " ++ found ++ ", expected " ++ expected
  | tooFew count kind => "invalid length " ++ toString count ++ ", expected " ++ kind.sizedText
  | tooMany count => "invalid length " ++ toString count ++ ", expected fewer elements in array"
  | fault f => f.message

end TableReadError

abbrev TableRead (α : Type) := Except TableReadError α

namespace Json

def described : Json → String
  | null => "null"
  | bool b => "boolean `" ++ toString b ++ "`"
  | integer n => "integer `" ++ toString n ++ "`"
  | real x => "floating point `" ++ realText x ++ "`"
  | string s => "string " ++ Text.quoted s
  | array _ => "sequence"
  | object _ => "map"

def mismatch {α : Type} (json : Json) (expected : String) : TableRead α :=
  .error (.wrongType json.described expected)

def readText : Json → TableRead String
  | string s => .ok s
  | json => json.mismatch "a string"

def readList {α : Type} (read : Json → TableRead α) : Json → TableRead (List α)
  | array items => items.mapM read
  | json => json.mismatch "a sequence"

def readTexts : Json → TableRead (List String) := readList readText

-- A field that is there has to be right, whether it is needed or not.
def readField? {α : Type} (read : Json → TableRead α) (name : String) (fields : Fields) :
    TableRead (Option α) :=
  (fields.lookup name).mapM read

def readItem? {α : Type} (read : Json → TableRead α) (index : Nat) (items : List Json) :
    TableRead (Option α) :=
  (items[index]?).mapM read

def readItem {α : Type} (kind : RecordKind) (read : Json → TableRead α) (index : Nat)
    (items : List Json) : TableRead α :=
  match items[index]? with
  | some item => read item
  | none => .error (.tooFew index kind)

def checkSize (kind : RecordKind) (items : List Json) : TableRead Unit :=
  if kind.size < items.length then .error (.tooMany items.length) else .ok ()

-- An object or an array of its fields.
def readRecord {α : Type} (kind : RecordKind) (ofFields : Fields → TableRead α)
    (ofItems : List Json → TableRead α) : Json → TableRead α
  | object fields => ofFields fields
  | array items => do
    let a ← ofItems items
    checkSize kind items
    .ok a
  | json => json.mismatch kind.text

end Json

def TableRead.required {α : Type} (name : String) : Option α → TableRead α
  | some value => .ok value
  | none => .error (.missing name)

namespace Column

def ofFields (fields : Json.Fields) : TableRead Column := do
  let expression ← Json.readField? Json.readText "expression" fields
  let id ← Json.readField? Json.readText "id" fields
  let label ← Json.readField? Json.readText "label" fields
  let id ← TableRead.required "id" id
  .ok ⟨id, label.getD "", expression.getD ""⟩

def ofItems (items : List Json) : TableRead Column := do
  let id ← Json.readItem .column Json.readText 0 items
  let label ← Json.readItem? Json.readText 1 items
  let expression ← Json.readItem? Json.readText 2 items
  .ok ⟨id, label.getD "", expression.getD ""⟩

def ofJson : Json → TableRead Column := Json.readRecord .column ofFields ofItems

end Column

namespace Rule

def ofFields (fields : Json.Fields) : TableRead Rule := do
  let id ← Json.readField? Json.readText "id" fields
  let inputs ← Json.readField? Json.readTexts "inputs" fields
  let outputs ← Json.readField? Json.readTexts "outputs" fields
  let id ← TableRead.required "id" id
  let inputs ← TableRead.required "inputs" inputs
  let outputs ← TableRead.required "outputs" outputs
  .ok ⟨id, inputs, outputs⟩

def ofItems (items : List Json) : TableRead Rule := do
  let id ← Json.readItem .rule Json.readText 0 items
  let inputs ← Json.readItem .rule Json.readTexts 1 items
  let outputs ← Json.readItem .rule Json.readTexts 2 items
  .ok ⟨id, inputs, outputs⟩

def ofJson : Json → TableRead Rule := Json.readRecord .rule ofFields ofItems

end Rule

-- What is read of a table before it is checked.
structure TableParts where
  id : String
  policy : String
  inputs : List Column
  outputs : List Column
  rules : List Rule

namespace TableParts

def readColumns : Json → TableRead (List Column) := Json.readList Column.ofJson

def readRules : Json → TableRead (List Rule) := Json.readList Rule.ofJson

-- Fields are read in the order of their names, and only then is one missed.
def ofFields (fields : Json.Fields) : TableRead TableParts := do
  let policy ← Json.readField? Json.readText "hit_policy" fields
  let id ← Json.readField? Json.readText "id" fields
  let inputs ← Json.readField? readColumns "inputs" fields
  let outputs ← Json.readField? readColumns "outputs" fields
  let rules ← Json.readField? readRules "rules" fields
  let id ← TableRead.required "id" id
  let policy ← TableRead.required "hit_policy" policy
  let outputs ← TableRead.required "outputs" outputs
  .ok ⟨id, policy, inputs.getD [], outputs, rules.getD []⟩

def ofItems (items : List Json) : TableRead TableParts := do
  let id ← Json.readItem .table Json.readText 0 items
  let policy ← Json.readItem .table Json.readText 1 items
  let inputs ← Json.readItem? readColumns 2 items
  let outputs ← Json.readItem .table readColumns 3 items
  let rules ← Json.readItem? readRules 4 items
  .ok ⟨id, policy, inputs.getD [], outputs, rules.getD []⟩

def ofJson : Json → TableRead TableParts := Json.readRecord .table ofFields ofItems

end TableParts

def Table.ofJson (json : Json) : TableRead Table := do
  let p ← TableParts.ofJson json
  (Table.buildNamed p.id p.policy p.inputs p.outputs p.rules).mapError .fault

def Json.ofTexts (texts : List String) : Json := .array (texts.map .string)

def Column.toJson (c : Column) : Json :=
  .object [("id", .string c.id), ("label", .string c.label), ("expression", .string c.expression)]

def Rule.toJson (r : Rule) : Json :=
  .object [("id", .string r.id), ("inputs", .ofTexts r.inputs), ("outputs", .ofTexts r.outputs)]

def Table.toJson (t : Table) : Json :=
  .object [("id", .string t.id), ("hit_policy", .string t.policy.name),
    ("inputs", .array (t.inputs.map Column.toJson)),
    ("outputs", .array (t.outputs.map Column.toJson)),
    ("rules", .array (t.rules.map Rule.toJson))]

end Rulebook
