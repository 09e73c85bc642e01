import Rulebook.Unicode.CategoryTable

/-!
General categories of characters, and membership of characters in ascending ranges of code points.
-/

namespace Rulebook.Unicode

inductive Category
  | uppercaseLetter | lowercaseLetter | titlecaseLetter | modifierLetter | otherLetter
  | nonspacingMark | spacingMark | enclosingMark
  | decimalNumber | letterNumber | otherNumber
  | connectorPunctuation | dashPunctuation | openPunctuation | closePunctuation
  | initialPunctuation | finalPunctuation | otherPunctuation
  | mathSymbol | currencySymbol | modifierSymbol | otherSymbol
  | spaceSeparator | lineSeparator | paragraphSeparator
  | control | format | surrogate | privateUse | unassigned
  deriving DecidableEq, Inhabited, Repr

namespace Category

def all : List Category :=
  [uppercaseLetter, lowercaseLetter, titlecaseLetter, modifierLetter, otherLetter,
   nonspacingMark, spacingMark, enclosingMark, decimalNumber, letterNumber, otherNumber,
   connectorPunctuation, dashPunctuation, openPunctuation, closePunctuation,
   initialPunctuation, finalPunctuation, otherPunctuation,
   mathSymbol, currencySymbol, modifierSymbol, otherSymbol,
   spaceSeparator, lineSeparator, paragraphSeparator,
   control, format, surrogate, privateUse, unassigned]

-- The position, among the `2 ^ width` that start at `low`, of the last entry that is not above
-- `key`, given that the entry at `low` is not.
def lastAtMost (entries : Array Nat) (key : Nat) : (width low : Nat) → Nat
  | 0, low => low
  | width + 1, low =>
    let middle := low + Nat.pow 2 width
    match entries[middle]? with
    | some entry => lastAtMost entries key width (if entry ≤ key then middle else low)
    | none => lastAtMost entries key width low

-- Within a run of alternating letters the even offsets are capitals.
def ofCode (code offset : Nat) : Category :=
  if code = 30 then
    if offset % 2 = 0 then uppercaseLetter else lowercaseLetter
  else
    (all[code]?).getD unassigned

def ofCodePoint (codePoint : Nat) : Category :=
  let entry := categoryRuns[lastAtMost categoryRuns (32 * codePoint + 31) 12 0]?.getD 0
  ofCode (entry % 32) (codePoint - entry / 32)

def of (c : Char) : Category := ofCodePoint c.toNat

def isLetter : Category → Bool
  | uppercaseLetter | lowercaseLetter | titlecaseLetter | modifierLetter | otherLetter => true
  | _ => false

def isMark : Category → Bool
  | nonspacingMark | spacingMark | enclosingMark => true
  | _ => false

def isNumber : Category → Bool
  | decimalNumber | letterNumber | otherNumber => true
  | _ => false

def isPunctuation : Category → Bool
  | connectorPunctuation | dashPunctuation | openPunctuation | closePunctuation
  | initialPunctuation | finalPunctuation | otherPunctuation => true
  | _ => false

def isSymbol : Category → Bool
  | mathSymbol | currencySymbol | modifierSymbol | otherSymbol => true
  | _ => false

def isSeparator : Category → Bool
  | spaceSeparator | lineSeparator | paragraphSeparator => true
  | _ => false

def isOther : Category → Bool
  | control | format | surrogate | privateUse | unassigned => true
  | _ => false

end Category

-- Where categories change: each entry holds from its code point to that of the next.
def categoryChangesOf : List Nat → List (Nat × Category)
  | entry :: next :: entries =>
    let first := entry / 32
    let length := if entry % 32 = 30 then next / 32 - first else 1
    (List.range length).map (fun offset => (first + offset, .ofCode (entry % 32) offset)) ++
      categoryChangesOf (next :: entries)
  | _ => []

def categoryChanges : List (Nat × Category) := categoryChangesOf categoryRuns.toList

def inRanges (ranges : List (Nat × Nat)) (codePoint : Nat) : Bool :=
  ranges.any fun r => r.1 ≤ codePoint && codePoint ≤ r.2

theorem inRanges_iff {ranges : List (Nat × Nat)} {n : Nat} :
    inRanges ranges n = true ↔ ∃ r ∈ ranges, r.1 ≤ n ∧ n ≤ r.2 := by
  simp [inRanges]

end Rulebook.Unicode
