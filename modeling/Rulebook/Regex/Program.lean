import Rulebook.Regex.Pattern

/-!
Patterns as lists of instructions. The instructions of a pattern are entered at their first address
and left at the address behind their last.
-/

namespace Rulebook.Regex

inductive Instruction
  | take (set : CharSet)
  | require (b : Boundary)
  -- Keeps the place as the given border of a group.
  | mark (border : Nat)
  | jump (target : Nat)
  -- Goes on at both addresses, at the first one by preference.
  | fork (first second : Nat)
  | accept

abbrev Code := List Instruction

namespace Code

def choose (greedy : Bool) (body behind : Nat) : Instruction :=
  if greedy then .fork body behind else .fork behind body

-- Code that depends on its address, several times in a row.
def copies (code : Nat → Code) : (count start : Nat) → Code
  | 0, _ => []
  | count + 1, start => code start ++ copies code count (start + (code start).length)

-- Any number of times. A body that can be empty is left again before it can take nothing twice.
def star (code : Nat → Code) (takesText greedy : Bool) (start : Nat) : Code :=
  let body := code (start + 1)
  let last := start + 1 + body.length
  if takesText then choose greedy (start + 1) (last + 1) :: body ++ [.jump start]
  else choose greedy (start + 1) (last + 1) :: body ++ [choose greedy (start + 1) (last + 1)]

def plus (code : Nat → Code) (greedy : Bool) (start : Nat) : Code :=
  let body := code start
  body ++ [choose greedy start (start + body.length + 1)]

-- Up to so many times, each time inside the one before; `body` is the length of the code.
def optionalCopies (code : Nat → Code) (greedy : Bool) (body : Nat) : (count start : Nat) → Code
  | 0, _ => []
  | count + 1, start =>
    choose greedy (start + 1) (start + (count + 1) * (body + 1)) ::
      code (start + 1) ++ optionalCopies code greedy body count (start + 1 + body)

def atLeast (code : Nat → Code) (takesText greedy : Bool) (low start : Nat) : Code :=
  match low with
  | 0 => star code takesText greedy start
  | low + 1 =>
    let front := copies code low start
    front ++ plus code greedy (start + front.length)

def between (code : Nat → Code) (greedy : Bool) (low high start : Nat) : Code :=
  let front := copies code low start
  let behind := start + front.length
  front ++ optionalCopies code greedy (code behind).length (high - low) behind

def repetition (code : Nat → Code) (takesText greedy : Bool) (low : Nat) (high : Option Nat) :
    Nat → Code :=
  match high with
  | some high => between code greedy low high
  | none => atLeast code takesText greedy low

end Code

namespace Pattern

def code : Pattern → Nat → Code
  | empty, _ => []
  | literal text, _ => text.map fun c => .take (.single c)
  | one set, _ => [.take set]
  | boundary b, _ => [.require b]
  | sequence p q, start =>
    let front := p.code start
    front ++ q.code (start + front.length)
  | either p q, start =>
    let first := p.code (start + 1)
    let behind := start + 1 + first.length + 1
    let second := q.code behind
    .fork (start + 1) behind :: first ++ [.jump (behind + second.length)] ++ second
  | repetition low high greedy p, start =>
    Code.repetition p.code p.takesText greedy low high start
  | group index p, start =>
    .mark (2 * index) :: p.code (start + 1) ++ [.mark (2 * index + 1)]

-- The whole match is group 0.
def program (p : Pattern) : Array Instruction :=
  ((group 0 p).code 0 ++ [Instruction.accept]).toArray

end Pattern

end Rulebook.Regex
