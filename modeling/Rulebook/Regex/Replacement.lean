import Rulebook.Regex.Reader
import Rulebook.Regex.Search

/-!
Replacing matches. A dollar sign in the replacement refers to a group by number or name, and two of
them stand for one.
-/

namespace Rulebook.Regex

inductive Piece
  | literal (text : List Char)
  | reference (name : String)

def continuesReference (c : Char) : Bool := c.isAlphanum || c == '_'

-- A dollar sign that refers to nothing stands for itself.
def readReference (cs : List Char) : Option (String × List Char) :=
  match cs with
  | '\x7b' :: rest =>
    match rest.dropWhile (· != '\x7d') with
    | [] => none
    | _ :: after => some (String.ofList (rest.takeWhile (· != '\x7d')), after)
  | _ =>
    match cs.takeWhile continuesReference with
    | [] => none
    | name => some (String.ofList name, cs.dropWhile continuesReference)

-- Every piece takes a character, so the length of the text is enough.
def piecesOf : (steps : Nat) → List Char → List Piece
  | 0, _ => []
  | _ + 1, [] => []
  | steps + 1, '$' :: '$' :: rest => .literal ['$'] :: piecesOf steps rest
  | steps + 1, '$' :: rest =>
    match readReference rest with
    | some (name, rest) => .reference name :: piecesOf steps rest
    | none => .literal ['$'] :: piecesOf steps rest
  | steps + 1, c :: rest => .literal [c] :: piecesOf steps rest

def groupNumber? (name : String) : Option Nat :=
  match name.toList with
  | [] => none
  | '+' :: digits => if digits.isEmpty || !digits.all Char.isDigit then none
    else some (Number.digitsValue digits)
  | digits => if digits.all Char.isDigit then some (Number.digitsValue digits) else none

namespace Expression

def groupIndex? (e : Expression) (name : String) : Option Nat :=
  (groupNumber? name).or ((e.names.find? (·.1 == name)).map (·.2))

-- A group that took no part, or is unknown, is empty.
def groupText (e : Expression) (text : List Char) (m : Match) (name : String) : List Char :=
  match (e.groupIndex? name).bind m.group? with
  | some (start, finish) => slice text start finish
  | none => []

def expand (e : Expression) (text : List Char) (m : Match) : Piece → List Char
  | .literal cs => cs
  | .reference name => e.groupText text m name

def replaceFrom (e : Expression) (text : List Char) (pieces : List Piece) (start : Nat) :
    List Match → List Char
  | [] => text.drop start
  | m :: ms =>
    slice text start m.range.1 ++ pieces.flatMap (e.expand text m) ++
      replaceFrom e text pieces m.range.2 ms

def replaceAll (e : Expression) (text replacement : String) : String :=
  let pieces := piecesOf replacement.toList.length replacement.toList
  let text := text.toList
  String.ofList (e.replaceFrom text pieces 0 (e.pattern.allMatches text))

end Expression

end Rulebook.Regex
