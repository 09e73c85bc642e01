import Rulebook.Regex.Pattern

/-!
Putting patterns together. What is put together is made simpler where that shows: characters side by
side are one text, alternatives of one character each are a set, and what all alternatives have in
front is written once.
-/

namespace Rulebook.Regex.Pattern

-- The patterns of a sequence, in order.
def parts : Pattern → List Pattern
  | empty => []
  | sequence p q => p.parts ++ q.parts
  | p => [p]

-- The alternatives of a pattern, in order.
def branches : Pattern → List Pattern
  | either p q => p.branches ++ q.branches
  | p => [p]

def ofSet (set : CharSet) : Pattern :=
  match set.singleton? with
  | some c => literal [c]
  | none => one set

-- Once is as good as often for a pattern that takes nothing.
def repeated (low : Nat) (high : Option Nat) (greedy : Bool) (p : Pattern) : Pattern :=
  let (low, high) :=
    if p.isAlwaysEmpty then (min low 1, some (min (high.getD 1) 1)) else (low, high)
  if low = 0 ∧ high = some 0 then empty
  else if low = 1 ∧ high = some 1 then p
  else repetition low high greedy p

def joinTexts : List Pattern → List Pattern
  | [] => []
  | literal text :: ps =>
    match joinTexts ps with
    | literal behind :: ps => literal (text ++ behind) :: ps
    | ps => literal text :: ps
  | p :: ps => p :: joinTexts ps

def ofParts : List Pattern → Pattern
  | [] => empty
  | [p] => p
  | p :: ps => sequence p (ofParts ps)

def inSequence (ps : List Pattern) : Pattern := ofParts (joinTexts (ps.flatMap parts))

def ofBranches : List Pattern → Pattern
  | [] => one .none
  | [p] => p
  | p :: ps => either p (ofBranches ps)

def text? : Pattern → Option (List Char)
  | literal text => some text
  | _ => none

def character? : Pattern → Option Char
  | literal [c] => some c
  | _ => none

def set? : Pattern → Option CharSet
  | one set => some set
  | _ => none

-- The characters that stand alone as alternatives, or the members of the sets that do.
def asSet? (alternatives : List Pattern) : Option CharSet :=
  let characters := alternatives.mapM character?
  let sets := alternatives.mapM set?
  (characters.map fun cs => CharSet.ofCodePoints (cs.map Char.toNat)).or
    (sets.map fun sets => sets.foldl .union .none)

def commonFront : List Pattern → List Pattern → List Pattern
  | p :: ps, q :: qs => if p = q then p :: commonFront ps qs else []
  | _, _ => []

-- What sequences have in common at their front. There is none if some alternative is no sequence.
def sharedFront (alternatives : List Pattern) : List Pattern :=
  match alternatives.map parts with
  | [] => []
  | first :: others =>
    if (first :: others).all fun ps => 1 < ps.length then others.foldl commonFront first else []

def inTurn (ps : List Pattern) : Pattern :=
  let alternatives := ps.flatMap branches
  match alternatives with
  | [p] => p
  | alternatives =>
    match asSet? alternatives with
    | some set => ofSet set
    | none => ofBranches alternatives

def inAlternatives (ps : List Pattern) : Pattern :=
  match inTurn ps with
  | either p q =>
    let alternatives := (either p q).branches
    match sharedFront alternatives with
    | [] => either p q
    | front =>
      let behind := alternatives.map fun p => inSequence (p.parts.drop front.length)
      inSequence (front ++ [inTurn behind])
  | p => p

end Rulebook.Regex.Pattern
