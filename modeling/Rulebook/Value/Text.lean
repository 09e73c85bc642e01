import Rulebook.Value.Basic

/-!
Values as text. A string stands for itself, and in quotes inside another value.
-/

namespace Rulebook.Value

-- `10 ^ 15`.
def maxPlainInteger : Nat := 1000000000000000

-- A zero among the whole numbers below the limit loses its sign.
def numberText (x : Float) : String :=
  match Number.toInt? x with
  | some n => if n.natAbs < maxPlainInteger then toString n else Number.text x
  | none => Number.text x

mutual

def textWith (quotes : Bool) : Value → String
  | null => "null"
  | boolean b => if b then "true" else "false"
  | number x => numberText x
  | string s => if quotes then Text.quoted s else s
  | date d => d.text
  | time t => t.text
  | dateTime d => d.text
  | duration d => d.text
  | list items => "[" ++ Text.joined ", " (itemTexts items) ++ "]"
  | context entries => "\x7b" ++ Text.joined ", " (entryTexts entries) ++ "\x7d"
  | range s f i j =>
    (if i then "[" else "(") ++ textWith true s ++ ".." ++ textWith true f ++
      (if j then "]" else ")")

def itemTexts : List Value → List String
  | [] => []
  | v :: vs => textWith true v :: itemTexts vs

def entryTexts : List (String × Value) → List String
  | [] => []
  | (key, v) :: rest => (key ++ ": " ++ textWith true v) :: entryTexts rest

end

def text (v : Value) : String :=
  textWith false v

end Rulebook.Value
