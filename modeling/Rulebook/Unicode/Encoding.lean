import Rulebook.Unicode.CharSet

/-!
Sets of characters as sets of byte sequences. A range of characters is cut into parts whose
encodings run through a range of bytes at each place on its own.
-/

namespace Rulebook

abbrev ByteRange := Nat × Nat

-- The ranges of the bytes of an encoding, first byte first.
abbrev ByteSequence := List ByteRange

namespace ByteSequence

def bytes (codePoint : Nat) : List Nat :=
  (String.utf8EncodeChar (Char.ofNat codePoint)).map UInt8.toNat

-- The code points with encodings of one length, on either side of those that are no characters.
def lengthBlocks : List (Nat × Nat) :=
  [(0, 0x7f), (0x80, 0x7ff), (0x800, 0xd7ff), (0xe000, 0xffff), (0x10000, 0x10ffff)]

def meet (r s : Nat × Nat) : Option (Nat × Nat) :=
  let low := max r.1 s.1
  let high := min r.2 s.2
  if low ≤ high then some (low, high) else none

-- Each byte but the first has 64 values. Of the blocks of a unit only whole ones stay together,
-- and the others are taken off at both ends.
def alignedParts : (levels unit : Nat) → (low high : Nat) → List (Nat × Nat)
  | 0, _, low, high => [(low, high)]
  | levels + 1, unit, low, high =>
    if low / unit = high / unit then [(low, high)]
    else
      let start := if low % unit = 0 then low else (low / unit + 1) * unit
      let stop := if high % unit = unit - 1 then high + 1 else high / unit * unit
      let front := if low < start then [(low, start - 1)] else []
      let middle := if start < stop then alignedParts levels (64 * unit) start (stop - 1) else []
      let back := if stop ≤ high then [(stop, high)] else []
      front ++ middle ++ back

def ofRange (range : Nat × Nat) : List ByteSequence :=
  (lengthBlocks.filterMap (meet range)).flatMap fun (low, high) =>
    (alignedParts 3 64 low high).map fun (low, high) => (bytes low).zip (bytes high)

end ByteSequence

-- In ascending order.
def CharSet.byteSequences (s : CharSet) : List ByteSequence := s.ranges.flatMap ByteSequence.ofRange

namespace ByteSequence

-- Neighbours with the same first range, and what is behind it in each.
def groups : List ByteSequence → List (ByteRange × List ByteSequence)
  | [] => []
  | [] :: sequences => groups sequences
  | (range :: tail) :: sequences =>
    match groups sequences with
    | [] => [(range, [tail])]
    | (next, tails) :: others =>
      if range = next then (range, tail :: tails) :: others
      else (range, [tail]) :: (next, tails) :: others

def maxLength : Nat := 4

-- The different ways to begin, of any length above zero.
def frontCount : (length : Nat) → List ByteSequence → Nat
  | 0, _ => 0
  | length + 1, sequences =>
    (groups sequences).foldl (fun count (_, tails) => count + 1 + frontCount length tails) 0

-- What may follow some beginning, as long as anything does; the same more than once.
def continuations : (length : Nat) → List ByteSequence → List (List ByteSequence)
  | 0, _ => []
  | length + 1, sequences =>
    match groups sequences with
    | [] => []
    | groups => sequences :: groups.flatMap fun (_, tails) => continuations length tails

end ByteSequence

end Rulebook
