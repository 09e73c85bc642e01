import Rulebook.Json.Basic
import Rulebook.Value.Text

/-!
Values and JSON. Reading takes every JSON number as a number; writing gives whole numbers below
`9 * 10 ^ 15` as integers, and the values that JSON lacks as text or as an object.
-/

namespace Rulebook.Value

mutual

-- The fields of an object arrive in the order of their names.
def ofSortedJson : Json → Value
  | .null => null
  | .bool b => boolean b
  | .integer n => ofInt n
  | .real x => number x
  | .string s => string s
  | .array items => list (ofSortedItems items)
  | .object fields => context (ofSortedFields fields)

def ofSortedItems : List Json → List Value
  | [] => []
  | item :: items => ofSortedJson item :: ofSortedItems items

def ofSortedFields : Json.Fields → List (String × Value)
  | [] => []
  | (key, json) :: rest => (key, ofSortedJson json) :: ofSortedFields rest

end

def ofJson (json : Json) : Value :=
  ofSortedJson json.sorted

def numberToJson (x : Float) : Json :=
  match Number.toInt? x with
  | some n => if n.natAbs < 9000000000000000 then .integer n else .real x
  | none => if Number.isFinite x then .real x else .null

mutual

def toJson : Value → Json
  | null => .null
  | boolean b => .bool b
  | number x => numberToJson x
  | string s => .string s
  | date d => .string d.text
  | time t => .string t.text
  | dateTime d => .string d.text
  | duration d => .string d.text
  | list items => .array (itemsToJson items)
  | context entries => .object (entriesToJson entries [])
  | range s f i j =>
    .object [("end", toJson f), ("end_included", .bool j),
      ("start", toJson s), ("start_included", .bool i)]

def itemsToJson : List Value → List Json
  | [] => []
  | v :: vs => toJson v :: itemsToJson vs

-- Adds the entries to fields that are already sorted.
def entriesToJson : List (String × Value) → Json.Fields → Json.Fields
  | [], done => done
  | (key, v) :: rest, done => entriesToJson rest (done.insertSorted key (toJson v))

end

end Rulebook.Value
