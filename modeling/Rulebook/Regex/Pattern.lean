import Rulebook.Unicode.CharSet

/-!
Patterns of text: what a regular expression says once it is read. Places between characters are
judged by the two characters around them.
-/

namespace Rulebook.Regex

-- Places that a pattern can ask for. Words are runs of the characters of a set.
inductive Boundary
  | textStart
  | textEnd
  | lineStart
  | lineEnd
  -- A carriage return ends a line as well, together with the newline behind it.
  | returnLineStart
  | returnLineEnd
  | word (set : CharSet)
  | notWord (set : CharSet)
  | wordStart (set : CharSet)
  | wordEnd (set : CharSet)
  | wordStartHalf (set : CharSet)
  | wordEndHalf (set : CharSet)
  deriving DecidableEq

namespace Boundary

def isLineStart : Option Char → Bool
  | none => true
  | some c => c == '\n'

def isReturnLineStart (before after : Option Char) : Bool :=
  isLineStart before || (before == some '\r' && after != some '\n')

def isReturnLineEnd (before after : Option Char) : Bool :=
  after.isNone || after == some '\r' || (after == some '\n' && before != some '\r')

def holds (b : Boundary) (before after : Option Char) : Bool :=
  match b with
  | textStart => before.isNone
  | textEnd => after.isNone
  | lineStart => isLineStart before
  | lineEnd => isLineStart after
  | returnLineStart => isReturnLineStart before after
  | returnLineEnd => isReturnLineEnd before after
  | word set => before.any set.contains != after.any set.contains
  | notWord set => before.any set.contains == after.any set.contains
  | wordStart set => !before.any set.contains && after.any set.contains
  | wordEnd set => before.any set.contains && !after.any set.contains
  | wordStartHalf set => !before.any set.contains
  | wordEndHalf set => !after.any set.contains

end Boundary

-- `either` prefers its first side, and a greedy repetition prefers to go on.
inductive Pattern
  | empty
  | literal (text : List Char)
  | one (set : CharSet)
  | boundary (b : Boundary)
  | sequence (first second : Pattern)
  | either (first second : Pattern)
  | repetition (low : Nat) (high : Option Nat) (greedy : Bool) (body : Pattern)
  | group (index : Nat) (body : Pattern)
  deriving DecidableEq

namespace Pattern

-- How many characters a match takes at least. Nothing is said of a pattern with a set in it that
-- has no members.
def minLength? : Pattern → Option Nat
  | empty => some 0
  | literal text => some text.length
  | one set => if set == .none then none else some 1
  | boundary _ => some 0
  | sequence p q => do some ((← p.minLength?) + (← q.minLength?))
  | either p q => do some (min (← p.minLength?) (← q.minLength?))
  | repetition low _ _ p => p.minLength?.map (low * ·)
  | group _ p => p.minLength?

def takesText (p : Pattern) : Bool := 0 < p.minLength?.getD 0

-- Takes no character whatever it matches.
def isAlwaysEmpty : Pattern → Bool
  | empty => true
  | literal text => text.isEmpty
  | one _ => false
  | boundary _ => true
  | sequence p q => p.isAlwaysEmpty && q.isAlwaysEmpty
  | either p q => p.isAlwaysEmpty && q.isAlwaysEmpty
  | repetition _ high _ p => high == some 0 || p.isAlwaysEmpty
  | group _ p => p.isAlwaysEmpty

end Pattern

end Rulebook.Regex
