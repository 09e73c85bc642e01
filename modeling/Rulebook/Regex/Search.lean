import Rulebook.Regex.Program

/-!
Searching a text. All attempts advance together, character by character, in the order in which they
are preferred, and no two of them stand at the same instruction.
-/

namespace Rulebook.Regex

-- Where the borders of groups were passed, latest first.
abbrev Marks := List (Nat × Nat)

def Marks.place? (marks : Marks) (border : Nat) : Option Nat :=
  (marks.find? (·.1 == border)).map (·.2)

structure Attempt where
  address : Nat
  marks : Marks

-- A place in the text: how many characters are before it, the nearest of them, and those behind.
structure Position where
  index : Nat
  before : Option Char
  behind : List Char

namespace Position

def start (text : List Char) : Position := ⟨0, none, text⟩

def holds (p : Position) (b : Boundary) : Bool := b.holds p.before p.behind.head?

end Position

structure Round where
  -- Attempts that wait for the next character, latest first.
  waiting : List (CharSet × Attempt)
  accepted : Option Marks

section

variable (program : Array Instruction)

-- Follows the attempts as far as they go without a character. Those behind an accepted one are
-- given up, and so are those at an address that was seen.
def settle (position : Position) : (steps : Nat) → (seen : Array Bool) → List Attempt →
    List (CharSet × Attempt) → Round
  | 0, _, _, waiting => ⟨waiting, none⟩
  | _ + 1, _, [], waiting => ⟨waiting, none⟩
  | steps + 1, seen, a :: others, waiting =>
    if (seen[a.address]?).getD true then settle position steps seen others waiting
    else
      let seen := seen.setIfInBounds a.address true
      match program[a.address]? with
      | none => settle position steps seen others waiting
      | some (.take set) =>
        settle position steps seen others ((set, { a with address := a.address + 1 }) :: waiting)
      | some (.require b) =>
        if position.holds b then
          settle position steps seen ({ a with address := a.address + 1 } :: others) waiting
        else settle position steps seen others waiting
      | some (.mark border) =>
        let marks := (border, position.index) :: a.marks
        settle position steps seen (⟨a.address + 1, marks⟩ :: others) waiting
      | some (.jump target) =>
        settle position steps seen ({ a with address := target } :: others) waiting
      | some (.fork first second) =>
        settle position steps seen
          ({ a with address := first } :: { a with address := second } :: others) waiting
      | some .accept => ⟨waiting, some a.marks⟩

-- Each address is followed once and adds at most two attempts.
def settled (position : Position) (attempts : List Attempt) : Round :=
  settle program position (attempts.length + 2 * program.size + 1)
    (Array.replicate program.size false) attempts []

-- A new attempt starts at each place until one is accepted.
def searchFrom (index : Nat) (before : Option Char) (attempts : List Attempt)
    (best : Option Marks) (behind : List Char) : Option Marks :=
  let attempts := if best.isNone then attempts ++ [⟨0, []⟩] else attempts
  let round := settled program ⟨index, before, behind⟩ attempts
  let best := round.accepted.or best
  match behind with
  | [] => best
  | c :: behind =>
    let next := (round.waiting.filter fun (set, _) => set.contains c).reverse.map (·.2)
    if next.isEmpty && best.isSome then best
    else searchFrom (index + 1) (some c) next best behind

end

-- Borders of the groups of a match; the whole match is group 0.
structure Match where
  marks : Marks

namespace Match

def group? (m : Match) (index : Nat) : Option (Nat × Nat) := do
  some (← m.marks.place? (2 * index), ← m.marks.place? (2 * index + 1))

def range (m : Match) : Nat × Nat := (m.group? 0).getD (0, 0)

end Match

def find? (program : Array Instruction) (p : Position) : Option Match :=
  (searchFrom program p.index p.before [] none p.behind).map Match.mk

namespace Position

def advance (p : Position) : (count : Nat) → Position
  | 0 => p
  | count + 1 =>
    match p.behind with
    | [] => p
    | c :: behind => advance ⟨p.index + 1, some c, behind⟩ count

end Position

-- The matches from a place on, one behind the other. An empty match where the last one ended does
-- not count.
def matchesFrom (program : Array Instruction) : (steps : Nat) → (last : Option Nat) → Position →
    List Match
  | 0, _, _ => []
  | steps + 1, last, p =>
    match find? program p with
    | none => []
    | some m =>
      let (start, finish) := m.range
      if start == finish && last == some finish then
        if p.behind.isEmpty then [] else matchesFrom program steps last (p.advance 1)
      else m :: matchesFrom program steps (some finish) (p.advance (finish - p.index))

namespace Pattern

def allMatches (p : Pattern) (text : List Char) : List Match :=
  matchesFrom p.program (2 * text.length + 2) none (.start text)

def occursIn (p : Pattern) (text : List Char) : Bool :=
  (find? p.program (.start text)).isSome

end Pattern

def slice (text : List Char) (start finish : Nat) : List Char :=
  (text.take finish).drop start

-- What stands between matches, before the first and behind the last.
def piecesFrom (text : List Char) (start : Nat) : List Match → List (List Char)
  | [] => [text.drop start]
  | m :: ms => slice text start m.range.1 :: piecesFrom text m.range.2 ms

def Pattern.split (p : Pattern) (text : List Char) : List (List Char) :=
  piecesFrom text 0 (p.allMatches text)

end Rulebook.Regex
