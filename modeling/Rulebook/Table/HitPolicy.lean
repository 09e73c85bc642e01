import Rulebook.Text.Quoted

/-!
Hit policies: which of the rules that match a table's answer comes from.
-/

namespace Rulebook

inductive HitPolicy
  -- Exactly one rule may match.
  | unique
  | first
  -- The order of the rules is their priority.
  | priority
  -- All rules that match must agree.
  | any
  -- The first rule decides, and all that match are reported.
  | collect
  deriving DecidableEq, Hashable, Repr

namespace HitPolicy

def name : HitPolicy → String
  | unique => "UNIQUE"
  | first => "FIRST"
  | priority => "PRIORITY"
  | any => "ANY"
  | collect => "COLLECT"

-- A full name or its first letter, in any case, with blanks around it.
def ofName? (text : String) : Option HitPolicy :=
  match String.ofList ((Text.trim text).toList.map Char.toUpper) with
  | "UNIQUE" | "U" => some unique
  | "FIRST" | "F" => some first
  | "PRIORITY" | "P" => some priority
  | "ANY" | "A" => some any
  | "COLLECT" | "C" => some collect
  | _ => none

def stopsAtFirstMatch : HitPolicy → Bool
  | first | priority => true
  | _ => false

end HitPolicy

end Rulebook
