import Rulebook.Value.Basic

/-!
Bindings visible to an expression, the innermost frame first and the caller's context last, and the
meaning of dotted paths.
-/

namespace Rulebook

abbrev Scope := List Context

namespace Scope

def get? (scope : Scope) (key : String) : Option Value :=
  scope.findSome? fun frame => frame.get? key

def push (frame : Context) (scope : Scope) : Scope := frame :: scope

-- The pieces of a text between its points.
def segments (cs : List Char) : List (List Char) :=
  match cs with
  | [] => [[]]
  | '.' :: rest => [] :: segments rest
  | c :: rest =>
    match segments rest with
    | first :: others => (c :: first) :: others
    | [] => [[c]]

-- The two sides of each point, the last point first.
def cuts : List Char → List (List Char × List Char)
  | [] => []
  | c :: rest =>
    let inner := (cuts rest).map fun (before, after) => (c :: before, after)
    if c = '.' then inner ++ [([], rest)] else inner

-- From a value down its members.
def walk (base : Value) (keys : List Char) : Value :=
  (segments keys).foldl (fun v key => v.property (String.ofList key)) base

-- The longest front of the path that is bound, down to its first segment, decides.
def resolve (scope : Scope) (path : String) : Value :=
  match scope.get? path with
  | some v => v
  | none =>
    let found := (cuts path.toList).findSome? fun (before, after) =>
      (scope.get? (String.ofList before)).map (walk · after)
    found.getD .null

end Scope

end Rulebook
