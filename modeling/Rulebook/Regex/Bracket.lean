import Rulebook.Regex.Escape

/-!
Reading the sets that brackets list, together with how deep they are nested.
-/

namespace Rulebook.Regex

-- What is written in parts, with the number of levels of its parts.
structure Nested (α : Type) where
  value : α
  depth : Nat

section

variable (flags : Flags)

def readMemberAtom : List Char → Option (Atom × List Char)
  | [] => none
  | '\\' :: rest => readEscape flags rest
  | c :: rest => some (.char c, rest)

-- Where bytes are meant, only ASCII can be listed.
def memberChar? : Atom → Option Char
  | .char c => if flags.unicode || CharClass.isAscii c then some c else none
  | _ => none

def memberSet? : Atom → Option CharSet
  | .set s => some s
  | a => (memberChar? flags a).map CharSet.single

-- The next character that is not blank. Of a comment only the sign is passed over, so its first
-- character counts.
def peek (cs : List Char) : Option Char :=
  if !flags.spaced then cs.head?
  else
    match cs.dropWhile Unicode.isBlank with
    | '#' :: rest => (rest.dropWhile Unicode.isBlank).head?
    | rest => rest.head?

-- A member of a bracket: a set, a character, or all characters from one to another. A dash before
-- another dash or at the end makes no range.
def readMember (cs : List Char) : Option (CharSet × List Char) := do
  let (first, rest) ← readMemberAtom flags cs
  match skip flags.spaced rest with
  | '-' :: after =>
    match peek flags after with
    | some ']' | some '-' => some (← memberSet? flags first, '-' :: after)
    | _ => do
      let (last, rest) ← readMemberAtom flags (skip flags.spaced after)
      let low ← memberChar? flags first
      let high ← memberChar? flags last
      if low ≤ high then some (.between low high, rest) else none
  | rest => some (← memberSet? flags first, rest)

-- `:name:]` or `:^name:]`, and whether it is negated.
def readAsciiClass : List Char → Option ((CharSet × Bool) × List Char)
  | ':' :: cs =>
    let negated := cs.head? == some '^'
    let cs := if negated then cs.drop 1 else cs
    match cs.dropWhile (· != ':') with
    | ':' :: ']' :: rest => do
      some ((← CharClass.ascii? (String.ofList (cs.takeWhile (· != ':'))), negated), rest)
    | _ => none
  | _ => none

def setOperation? : List Char → Option ((CharSet → CharSet → CharSet) × List Char)
  | '&' :: '&' :: rest => some (.intersection, rest)
  | '-' :: '-' :: rest => some (.difference, rest)
  | '~' :: '~' :: rest => some (.symmetricDifference, rest)
  | _ => none

-- Members side by side: their union, their number, and the depth of the deepest.
structure Members where
  set : CharSet
  count : Nat
  depth : Nat

namespace Members

def empty : Members := ⟨.none, 0, 0⟩

def single (c : Char) (count : Nat) : Members := ⟨.single c, count, 0⟩

def add (m : Members) (member : CharSet) (depth : Nat) : Members :=
  ⟨m.set.union member, m.count + 1, max m.depth depth⟩

-- More than one member are a level of their own.
def side (m : Members) : Nested CharSet := ⟨m.set, if 1 < m.count then m.depth + 1 else m.depth⟩

end Members

def operate (operation : CharSet → CharSet → CharSet) (left right : Nested CharSet) :
    Nested CharSet :=
  ⟨operation (flags.fold left.value) (flags.fold right.value), max left.depth right.depth + 1⟩

-- What opens a bracket: whether it is negated, and the dashes or the closing bracket that stand for
-- themselves at its front.
def readOpening (cs : List Char) : Bool × Members × List Char :=
  let cs := skip flags.spaced cs
  let negated := cs.head? == some '^'
  let (dashes, rest) := span flags.spaced (· == '-') (if negated then cs.drop 1 else cs)
  if !dashes.isEmpty then (negated, .single '-' dashes.length, rest)
  else
    match rest with
    | ']' :: rest => (negated, .single ']' 1, rest)
    | rest => (negated, .empty, rest)

-- The members up to the closing bracket. Operations bind less than standing side by side, and
-- `combine` awaits the right side of the one before.
def readMembers : (steps : Nat) → (combine : Nested CharSet → Nested CharSet) →
    (members : Members) → List Char → Option (Nested CharSet × List Char)
  | 0, _, _, _ => none
  | steps + 1, combine, members, cs =>
    match skip flags.spaced cs with
    | [] => none
    | ']' :: rest => some (combine members.side, rest)
    | '[' :: rest =>
      match readAsciiClass rest with
      | some ((set, negated), rest) => do
        let set ← flags.foldedAndNegated? negated set
        readMembers steps combine (members.add set 0) rest
      | none => do
        let (negated, front, rest) := readOpening flags rest
        let (inner, rest) ← readMembers steps id front rest
        let set ← flags.foldedAndNegated? negated inner.value
        readMembers steps combine (members.add set (inner.depth + 1)) rest
    | cs =>
      match setOperation? cs with
      | some (operation, rest) =>
        readMembers steps (operate flags operation (combine members.side)) .empty rest
      | none => do
        let (set, rest) ← readMember flags cs
        readMembers steps combine (members.add set 0) rest

-- The set that a bracket lists. The bracket itself is a level.
def readBracket (cs : List Char) : Option (Nested CharSet × List Char) := do
  let (negated, front, rest) := readOpening flags cs
  let (inner, rest) ← readMembers flags (cs.length + 1) id front rest
  some (⟨← flags.foldedAndNegated? negated inner.value, inner.depth + 1⟩, rest)

end

end Rulebook.Regex
