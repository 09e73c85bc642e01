import Rulebook.Regex.Composition
import Rulebook.Unicode.Encoding

/-!
The size of the automata of a pattern, in bytes. There are two of them, one that reads forward and
one that reads backward, and both work on encoded text. A state takes 32 bytes, 4 more for each
state it leads to without a byte, and 8 more for each range of bytes if it has a list of them.
-/

namespace Rulebook.Regex

inductive Direction
  | forward
  | backward
  deriving DecidableEq

def total (sizes : List Nat) : Nat := sizes.foldl (· + ·) 0

namespace Automaton

def state : Nat := 32

def choice (targets : Nat) : Nat := state + 4 * targets

def dispatch (ranges : Nat) : Nat := state + 8 * ranges

-- Equal continuations share their states forward, and equal beginnings do backward.
def setSize (direction : Direction) (s : CharSet) : Nat :=
  if s.isAscii then state + dispatch s.ranges.length
  else
    let sequences := s.byteSequences
    let length := ByteSequence.maxLength
    match direction with
    | .forward =>
      let shared := (ByteSequence.continuations length sequences).eraseDups
      state + total (shared.map fun behind => dispatch (ByteSequence.groups behind).length)
    | .backward =>
      choice sequences.length + state + state * ByteSequence.frontCount length sequences

-- A range of characters gives at most 21 sequences of at most four bytes.
def setSizeBound (s : CharSet) : Nat := 2 * state + 21 * (4 * dispatch 1 + 4) * s.ranges.length

abbrev Word := List UInt8

-- The words up to each empty one, and those behind the last. Where nothing is in front an empty
-- word counts once.
def chunksFrom (chunk : List Word) (chunks : List (List Word)) : List Word → List (List Word)
  | [] => (chunk.reverse :: chunks).reverse
  | [] :: words =>
    if chunk.isEmpty && chunks.all (·.isEmpty) && !chunks.isEmpty then
      chunksFrom chunk chunks words
    else chunksFrom [] (chunk.reverse :: chunks) words
  | word :: words => chunksFrom (word :: chunk) chunks words

def chunks (words : List Word) : List (List Word) := chunksFrom [] [] words

-- What is behind each first byte of some words.
def branchesByByte (words : List Word) : List (List Word) :=
  (words.filterMap List.head?).eraseDups.map fun byte =>
    (words.filter (·.head? == some byte)).map List.tail

-- A tree of words that are preferred in their order. A word that ends leaves no state of its own.
def treeSize : (length : Nat) → List Word → Nat
  | 0, _ => 0
  | length + 1, words =>
    if words.all List.isEmpty then 0
    else
      let chunks := chunks words
      let filled := (chunks.map branchesByByte).filter fun branches => !branches.isEmpty
      let dispatches := filled.map fun branches =>
        if branches.length = 1 then state else dispatch branches.length
      choice (filled.length + chunks.length - 1) + total dispatches +
        total (filled.flatten.map (treeSize length))

def encoded (text : List Char) : Word := text.flatMap String.utf8EncodeChar

def wordsSize (direction : Direction) (texts : List (List Char)) : Nat :=
  let words := texts.map fun text =>
    match direction with
    | .forward => encoded text
    | .backward => (encoded text).reverse
  state + treeSize ((words.map List.length).foldl max 0 + 1) words

-- A body of some size that is repeated.
def repetitionSize (takesText : Bool) (low : Nat) (high : Option Nat) (body : Nat) : Nat :=
  match low, high with
  | 0, some 1 => choice 2 + body + state
  | 0, none => if takesText then choice 2 + body else 2 * choice 2 + body + state
  | low, none => low * body + choice 2
  | low, some high =>
    let front := if low = 0 then state else low * body
    if low = high then front else front + state + (high - low) * (choice 2 + body)

-- Alternatives stand side by side at one state. Texts alone make a tree; `sides` is the size of the
-- alternatives otherwise.
def alternativesSize (direction : Direction) (texts : Option (List (List Char))) (sides : Nat) :
    Nat :=
  match texts with
  | some texts => wordsSize direction texts
  | none => choice 0 + sides + state

-- The size of a pattern in its place, which may be that of an alternative.
def placed (isAlternative : Bool) (size : Nat) : Nat := if isAlternative then size + 4 else size

def groupSize : Direction → Nat
  | .forward => 2 * state
  | .backward => 0

end Automaton

namespace Pattern

open Automaton

section

variable (direction : Direction) (setSize : CharSet → Nat)

def sizeIn : (isAlternative : Bool) → Pattern → Nat
  | place, empty => placed place state
  | place, literal text => placed place (state * (encoded text).length)
  | place, one set => placed place (setSize set)
  | place, boundary _ => placed place state
  | place, sequence p q => placed place (p.sizeIn false + q.sizeIn false)
  | place, either p q =>
    let sides := p.sizeIn true + q.sizeIn true
    if place then sides
    else alternativesSize direction ((either p q).branches.mapM text?) sides
  | place, repetition low high _ p =>
    placed place (repetitionSize p.takesText low high (p.sizeIn false))
  | place, group _ p => placed place (p.sizeIn false + groupSize direction)

end

-- Matches at the start of the text only.
def isHeldAtStart : Pattern → Bool
  | boundary b => b = .textStart
  | sequence p q => p.isHeldAtStart || (p.isAlwaysEmpty && q.isHeldAtStart)
  | either p q => p.isHeldAtStart && q.isHeldAtStart
  | repetition low _ _ p => 0 < low && p.isHeldAtStart
  | group _ p => p.isHeldAtStart
  | _ => false

-- Matches at the end of the text only.
def isHeldAtEnd : Pattern → Bool
  | boundary b => b = .textEnd
  | sequence p q => q.isHeldAtEnd || (q.isAlwaysEmpty && p.isHeldAtEnd)
  | either p q => p.isHeldAtEnd && q.isHeldAtEnd
  | repetition low _ _ p => 0 < low && p.isHeldAtEnd
  | group _ p => p.isHeldAtEnd
  | _ => false

def isHeld (p : Pattern) : Direction → Bool
  | .forward => p.isHeldAtStart
  | .backward => p.isHeldAtEnd

-- In front stands a loop over any byte where a match may begin anywhere, and behind the accepting
-- state. The whole match is a group.
def automatonSize (p : Pattern) (direction : Direction) (setSize : CharSet → Nat) : Nat :=
  let lead := if p.isHeld direction then state else choice 2 + state + dispatch 1
  lead + (group 0 p).sizeIn direction setSize false + state

def maxSize : Nat := 10485760

-- The exact sizes of sets are worth their cost only if the bounds exceed the limit.
def exceedsSize (p : Pattern) (direction : Direction) : Bool :=
  maxSize < p.automatonSize direction setSizeBound &&
    maxSize < p.automatonSize direction (setSize direction)

def isTooLarge (p : Pattern) : Bool := p.exceedsSize .forward || p.exceedsSize .backward

end Pattern

end Rulebook.Regex
