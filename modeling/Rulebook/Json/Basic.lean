import Rulebook.Number.Reading

/-!
JSON. An object keeps its fields as written; `sorted` puts the fields of every object in the order
of their names, the last one of a name standing for all of them.
-/

namespace Rulebook

inductive Json
  | null
  | bool (b : Bool)
  | integer (n : Int)
  | real (x : Float)
  | string (s : String)
  | array (items : List Json)
  | object (fields : List (String × Json))

namespace Json

instance : Inhabited Json := ⟨.null⟩

abbrev Fields := List (String × Json)

def Fields.insertSorted (key : String) (value : Json) : Fields → Fields
  | [] => [(key, value)]
  | (k, v) :: rest =>
    match compare key k with
    | .lt => (key, value) :: (k, v) :: rest
    | .eq => (key, value) :: rest
    | .gt => (k, v) :: Fields.insertSorted key value rest

mutual

def sorted : Json → Json
  | array items => array (sortedItems items)
  | object fields => object (sortedFields fields [])
  | json => json

def sortedItems : List Json → List Json
  | [] => []
  | item :: items => sorted item :: sortedItems items

-- Adds the fields to those already sorted.
def sortedFields : Fields → Fields → Fields
  | [], done => done
  | (key, value) :: rest, done => sortedFields rest (done.insertSorted key (sorted value))

end

def field? (json : Json) (key : String) : Option Json :=
  match json with
  | object fields => fields.lookup key
  | _ => none

def string? : Json → Option String
  | string s => some s
  | _ => none

def items? : Json → Option (List Json)
  | array items => some items
  | _ => none

end Json

end Rulebook
