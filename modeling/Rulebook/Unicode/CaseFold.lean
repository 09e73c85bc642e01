import Rulebook.Unicode.CaseMap
import Rulebook.Unicode.CharSet

/-!
Closing sets of characters under case: with a character come all that differ from it by case alone,
in the former edition.
-/

namespace Rulebook

namespace Unicode

-- The code points from `low` to `high` that a run moves.
def CaseRun.within (low high : Nat) (run : CaseRun) : List Nat :=
  let (first, last, step, _) := run
  let start := first + (max first low - first + step - 1) / step * step
  let stop := min last high
  if stop < start then []
  else (List.range ((stop - start) / step + 1)).map fun i => start + step * i

def withoutAdded (codePoints : List Nat) : List Nat :=
  codePoints.filter fun n => !inRanges addedRanges n

-- The code points from `low` to `high` that may differ from others by case alone.
def caseSensitive (low high : Nat) : List Nat :=
  withoutAdded <| lowercaseRuns.flatMap (CaseRun.within low high) ++
    uppercaseRuns.flatMap (CaseRun.within low high) ++
    irregularCaseOrbits.flatten.filter fun n => low ≤ n && n ≤ high

def caseOrbits (codePoints : List Nat) : List Nat :=
  withoutAdded <| codePoints.flatMap fun n => (caseOrbit (Char.ofNat n)).map Char.toNat

end Unicode

namespace CharSet

def ignoringCase (s : CharSet) : CharSet :=
  let cased := s.ranges.flatMap fun (low, high) => Unicode.caseSensitive low high
  s.union (ofCodePoints (Unicode.caseOrbits cased))

def asciiLetters : List Char := "ABCDEFGHIJKLMNOPQRSTUVWXYZ".toList

def ignoringAsciiCase (s : CharSet) : CharSet :=
  let found := asciiLetters.filter fun c => s.contains c || s.contains c.toLower
  s.union (ofCodePoints (found.flatMap fun c => [c.toNat, c.toLower.toNat]))

end CharSet

end Rulebook
