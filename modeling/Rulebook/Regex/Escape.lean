import Rulebook.Number.Reading
import Rulebook.Regex.CharClass
import Rulebook.Regex.Pattern
import Rulebook.Unicode.CaseFold

/-!
Reading the smallest parts of patterns: flags, counts, code points, and what a backslash means.
Nothing is said about a malformed pattern beyond that it is.
-/

namespace Rulebook.Regex

structure Flags where
  ignoreCase : Bool := false
  multiLine : Bool := false
  dotAll : Bool := false
  swapGreed : Bool := false
  unicode : Bool := true
  -- Blanks and comments between the parts of a pattern do not count.
  spaced : Bool := false
  returnLines : Bool := false

namespace Flags

variable (flags : Flags)

def set? (value : Bool) : Char → Option Flags
  | 'i' => some { flags with ignoreCase := value }
  | 'm' => some { flags with multiLine := value }
  | 's' => some { flags with dotAll := value }
  | 'U' => some { flags with swapGreed := value }
  | 'u' => some { flags with unicode := value }
  | 'x' => some { flags with spaced := value }
  | 'R' => some { flags with returnLines := value }
  | _ => none

def fold (s : CharSet) : CharSet :=
  if !flags.ignoreCase then s
  else if flags.unicode then s.ignoringCase
  else s.ignoringAsciiCase

-- Bytes that are no characters cannot be asked for, and the complement of a set of bytes has some.
def negated? (negated : Bool) (s : CharSet) : Option CharSet :=
  if !negated then some s
  else if flags.unicode then some s.negate
  else none

def foldedAndNegated? (negated : Bool) (s : CharSet) : Option CharSet :=
  flags.negated? negated (flags.fold s)

def dot? : Option CharSet :=
  if !flags.unicode then none
  else if flags.dotAll then some .all
  else if flags.returnLines then some (CharSet.negate (.ofCharRanges [('\n', '\n'), ('\r', '\r')]))
  else some (CharSet.negate (.single '\n'))

def startAnchor : Boundary :=
  if !flags.multiLine then .textStart
  else if flags.returnLines then .returnLineStart
  else .lineStart

def endAnchor : Boundary :=
  if !flags.multiLine then .textEnd
  else if flags.returnLines then .returnLineEnd
  else .lineEnd

def wordCharacters : CharSet := CharClass.wordCharacters flags.unicode

end Flags

def skipFrom : (inComment : Bool) → List Char → List Char
  | _, [] => []
  | true, c :: cs => skipFrom (c != '\n') cs
  | false, c :: cs =>
    if Unicode.isBlank c then skipFrom false cs
    else if c == '#' then skipFrom true cs
    else c :: cs

def skip (spaced : Bool) (cs : List Char) : List Char :=
  if spaced then skipFrom false cs else cs

def spacedSpan (p : Char → Bool) : (inComment : Bool) → List Char → List Char × List Char
  | _, [] => ([], [])
  | true, c :: cs => spacedSpan p (c != '\n') cs
  | false, c :: cs =>
    if Unicode.isBlank c then spacedSpan p false cs
    else if c == '#' then spacedSpan p true cs
    else if p c then
      let (taken, rest) := spacedSpan p false cs
      (c :: taken, rest)
    else ([], c :: cs)

-- The longest run of characters with a property.
def span (spaced : Bool) (p : Char → Bool) (cs : List Char) : List Char × List Char :=
  if spaced then spacedSpan p false cs else (cs.takeWhile p, cs.dropWhile p)

def maxCount : Nat := UInt32.size - 1

def readCount (spaced : Bool) (cs : List Char) : Option (Nat × List Char) :=
  let (digits, rest) := span spaced Char.isDigit (cs.dropWhile Unicode.isBlank)
  let count := Number.digitsValue digits
  if digits.isEmpty || maxCount < count then none
  else some (count, rest.dropWhile Unicode.isBlank)

-- How often, as it stands behind an opening brace.
def readBounds (spaced : Bool) (cs : List Char) : Option ((Nat × Option Nat) × List Char) := do
  match ← readCount spaced cs with
  | (low, '\x7d' :: rest) => some ((low, some low), rest)
  | (low, ',' :: rest) =>
    match skip spaced rest with
    | '\x7d' :: rest => some ((low, none), rest)
    | rest =>
      match ← readCount spaced rest with
      | (high, '\x7d' :: rest) => if low ≤ high then some ((low, some high), rest) else none
      | _ => none
  | _ => none

def ofCodePoint? (n : Nat) : Option Char :=
  if n.isValidChar then some (Char.ofNat n) else none

def readHexDigits (spaced : Bool) : (count value : Nat) → List Char → Option (Nat × List Char)
  | 0, value, cs => some (value, cs)
  | _ + 1, _, [] => none
  | count + 1, value, c :: cs => do
    let digit ← Number.hexDigit? c
    readHexDigits spaced count (16 * value + digit) (skip spaced cs)

def hexValue (digits : List Char) : Nat :=
  digits.foldl (fun value c => 16 * value + (Number.hexDigit? c).getD 0) 0

-- A code point in so many digits, or in any number of them between braces.
def readCodePoint (spaced : Bool) (count : Nat) (cs : List Char) : Option (Char × List Char) :=
  match skip spaced cs with
  | '\x7b' :: rest =>
    match span spaced CharClass.isHexDigit rest with
    | ([], _) => none
    | (digits, '\x7d' :: rest) => do some (← ofCodePoint? (hexValue digits), skip spaced rest)
    | _ => none
  | cs => do
    let (value, rest) ← readHexDigits spaced count 0 cs
    some (← ofCodePoint? value, rest)

inductive Atom
  | char (c : Char)
  | set (s : CharSet)
  | boundary (b : Boundary)

-- `\x` gives a byte, and a byte above the first half is no character.
def readCharEscape (flags : Flags) (count : Nat) (cs : List Char) : Option (Atom × List Char) := do
  let braced := (skip flags.spaced cs).head? == some '\x7b'
  let (c, rest) ← readCodePoint flags.spaced count cs
  if count == 2 && !braced && !flags.unicode && !CharClass.isAscii c then none
  else some (.char c, rest)

def readPropertyName (spaced : Bool) (cs : List Char) :
    Option ((CharSet × Bool) × List Char) :=
  match skip spaced cs with
  | [] => none
  | '\x7b' :: rest =>
    match span spaced (· != '\x7d') rest with
    | (text, _ :: rest) => do some (← CharClass.property? text, rest)
    | _ => none
  | c :: rest =>
    if c == '\\' then none
    else do
      some ((← CharClass.named? (CharClass.normalName [c]), false), skip spaced rest)

def readProperty (flags : Flags) (negated : Bool) (cs : List Char) :
    Option (Atom × List Char) := do
  let ((set, excluded), rest) ← readPropertyName flags.spaced cs
  if flags.unicode then
    some (.set (← flags.foldedAndNegated? (negated != excluded) set), rest)
  else none

def isBoundaryNameChar (c : Char) : Bool := c.isAlpha || c == '-'

-- A brace behind `\b` may open the name of a special boundary; else it counts repetitions.
def readWordBoundary (flags : Flags) (cs : List Char) : Option (Atom × List Char) :=
  let words := flags.wordCharacters
  match cs with
  | '\x7b' :: rest =>
    match skip flags.spaced rest with
    | [] => none
    | c :: _ =>
      if !isBoundaryNameChar c then some (.boundary (.word words), cs)
      else
        match span flags.spaced isBoundaryNameChar rest with
        | (name, '\x7d' :: rest) =>
          match String.ofList name with
          | "start" => some (.boundary (.wordStart words), rest)
          | "end" => some (.boundary (.wordEnd words), rest)
          | "start-half" => some (.boundary (.wordStartHalf words), rest)
          | "end-half" => some (.boundary (.wordEndHalf words), rest)
          | _ => none
        | _ => none
  | _ => some (.boundary (.word words), cs)

-- Signs of ASCII stand for themselves behind a backslash.
def isEscapable (c : Char) : Bool :=
  CharClass.isAscii c && !c.isAlphanum && c != '<' && c != '>'

-- What a backslash in front of the characters means.
def readEscape (flags : Flags) : List Char → Option (Atom × List Char)
  | [] => none
  | c :: rest =>
    if isEscapable c then some (.char c, rest)
    else
      match c with
      | 'x' => readCharEscape flags 2 rest
      | 'u' => readCharEscape flags 4 rest
      | 'U' => readCharEscape flags 8 rest
      | 'p' => readProperty flags false rest
      | 'P' => readProperty flags true rest
      | 'a' => some (.char '\x07', rest)
      | 'f' => some (.char '\x0c', rest)
      | 't' => some (.char '\t', rest)
      | 'n' => some (.char '\n', rest)
      | 'r' => some (.char '\r', rest)
      | 'v' => some (.char '\x0b', rest)
      | 'A' => some (.boundary .textStart, rest)
      | 'z' => some (.boundary .textEnd, rest)
      | 'b' => readWordBoundary flags rest
      | 'B' => some (.boundary (.notWord flags.wordCharacters), rest)
      | '<' => some (.boundary (.wordStart flags.wordCharacters), rest)
      | '>' => some (.boundary (.wordEnd flags.wordCharacters), rest)
      | c => do
        let set ← CharClass.short? flags.unicode c
        some (.set (← flags.negated? c.isUpper set), rest)

end Rulebook.Regex
