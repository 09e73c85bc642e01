import Rulebook.Regex.Bracket
import Rulebook.Regex.Composition

/-!
Reading patterns, part by part. A pattern that is nested too deep is malformed.
-/

namespace Rulebook.Regex

-- What is read of a group: its earlier alternatives and the parts of the current one, both latest
-- first. A part that only sets flags is no pattern.
structure Frame where
  flags : Flags
  capture : Option Nat
  alternatives : List (Nested Pattern)
  parts : List (Nested (Option Pattern))

def maxDepth : Nat := 250

def deepest (depths : List Nat) : Nat := depths.foldl max 0

-- Several of a kind are a level of their own.
def levelOf (depths : List Nat) : Nat :=
  if 1 < depths.length then deepest depths + 1 else deepest depths

namespace Frame

def opening (flags : Flags) (capture : Option Nat) : Frame := ⟨flags, capture, [], []⟩

def current (f : Frame) : Nested Pattern :=
  ⟨.inSequence (f.parts.reverse.filterMap (·.value)), levelOf (f.parts.map (·.depth))⟩

def pattern (f : Frame) : Nested Pattern :=
  let alternatives := f.current :: f.alternatives
  let body := Pattern.inAlternatives (alternatives.reverse.map (·.value))
  let depth := levelOf (alternatives.map (·.depth))
  match f.capture with
  | some index => ⟨.group index body, depth⟩
  | none => ⟨body, depth⟩

def push (f : Frame) (p : Pattern) (depth : Nat) : Frame :=
  { f with parts := ⟨some p, depth⟩ :: f.parts }

def branch (f : Frame) : Frame :=
  { f with alternatives := f.current :: f.alternatives, parts := [] }

def repeatLast? (f : Frame) (low : Nat) (high : Option Nat) (greedy : Bool) : Option Frame :=
  match f.parts with
  | ⟨some p, depth⟩ :: parts =>
    let p := Pattern.repeated low high (greedy != f.flags.swapGreed) p
    if depth < maxDepth then some { f with parts := ⟨some p, depth + 1⟩ :: parts } else none
  | _ => none

end Frame

-- A pattern half read: the groups still open, innermost first, and the groups so far.
structure Reading where
  frame : Frame
  outer : List Frame
  groups : Nat
  names : List (String × Nat)

namespace Reading

def start : Reading := ⟨.opening {} none, [], 0, []⟩

def flags (r : Reading) : Flags := r.frame.flags

def push (r : Reading) (p : Pattern) (depth : Nat) : Reading :=
  { r with frame := r.frame.push p depth }

def openGroup (r : Reading) (flags : Flags) (capture : Option Nat) : Reading :=
  { r with frame := .opening flags capture, outer := r.frame :: r.outer }

def openCapture (r : Reading) : Reading :=
  { r.openGroup r.flags (some (r.groups + 1)) with groups := r.groups + 1 }

-- A group is a level of its own.
def closeGroup? (r : Reading) : Option Reading :=
  match r.outer with
  | [] => none
  | f :: outer =>
    let p := r.frame.pattern
    if p.depth < maxDepth then some { r with frame := f.push p.value (p.depth + 1), outer := outer }
    else none

def name? (r : Reading) (name : String) : Option Reading :=
  if r.names.any (·.1 == name) then none
  else some { r with names := (name, r.groups) :: r.names }

def setFlags (r : Reading) (flags : Flags) : Reading :=
  { r with frame := { r.frame with flags := flags, parts := ⟨none, 0⟩ :: r.frame.parts } }

def repeatLast? (r : Reading) (low : Nat) (high : Option Nat) (greedy : Bool) : Option Reading := do
  some { r with frame := ← r.frame.repeatLast? low high greedy }

def atom (r : Reading) : Atom → Reading
  | .char c => r.push (.ofSet (r.flags.fold (.single c))) 0
  | .set s => r.push (.ofSet s) 0
  | .boundary b => r.push (.boundary b) 0

-- The whole pattern, once all groups are closed.
def finish? (r : Reading) : Option Pattern :=
  let p := r.frame.pattern
  if r.outer.isEmpty && p.depth ≤ maxDepth then some p.value else none

end Reading

-- The flags up to a colon or a closing parenthesis, which are left; `used` are those seen already.
def readFlags (flags : Flags) (value : Bool) (used : List Char) :
    List Char → Option (Flags × List Char × List Char)
  | [] => none
  | c :: cs =>
    if c == ':' || c == ')' then
      if used.head? == some '-' then none else some (flags, used, c :: cs)
    else if used.contains c then none
    else if c == '-' then readFlags flags false (c :: used) cs
    else do
      let flags ← flags.set? value c
      readFlags flags value (c :: used) cs

def startsGroupName (c : Char) : Bool := c == '_' || Unicode.isAlphabetic c

def continuesGroupName (c : Char) : Bool :=
  c == '_' || c == '.' || c == '[' || c == ']' || Unicode.isAlphanumeric c

-- A name up to the closing angle bracket.
def readGroupName (cs : List Char) : Option (String × List Char) :=
  match cs.takeWhile (· != '>'), cs.dropWhile (· != '>') with
  | c :: name, _ :: rest =>
    if startsGroupName c && name.all continuesGroupName then some (String.ofList (c :: name), rest)
    else none
  | _, _ => none

def readNamedGroup (r : Reading) (cs : List Char) : Option (Reading × List Char) := do
  let (name, rest) ← readGroupName cs
  some (← r.openCapture.name? name, rest)

def readFlagGroup (r : Reading) (cs : List Char) : Option (Reading × List Char) := do
  match ← readFlags r.flags true [] cs with
  | (flags, used, ')' :: rest) => if used.isEmpty then none else some (r.setFlags flags, rest)
  | (flags, _, _ :: rest) => some (r.openGroup flags none, rest)
  | (_, _, []) => none

-- What follows an opening parenthesis. Looking around is not supported.
def readGroup (r : Reading) (cs : List Char) : Option (Reading × List Char) :=
  match skip r.flags.spaced cs with
  | '?' :: '=' :: _ | '?' :: '!' :: _ => none
  | '?' :: '<' :: '=' :: _ | '?' :: '<' :: '!' :: _ => none
  | '?' :: 'P' :: '<' :: rest => readNamedGroup r rest
  | '?' :: '<' :: rest => readNamedGroup r rest
  | '?' :: rest => readFlagGroup r rest
  | rest => some (r.openCapture, rest)

-- A question mark behind a repetition turns its preference.
def readGreed : List Char → Bool × List Char
  | '?' :: rest => (false, rest)
  | rest => (true, rest)

def readRepetition (r : Reading) (low : Nat) (high : Option Nat) (cs : List Char) :
    Option (Reading × List Char) := do
  let (greedy, rest) := readGreed cs
  some (← r.repeatLast? low high greedy, rest)

def readCounted (r : Reading) (cs : List Char) : Option (Reading × List Char) := do
  let ((low, high), rest) ← readBounds r.flags.spaced cs
  readRepetition r low high (skip r.flags.spaced rest)

def readPart (r : Reading) (c : Char) (cs : List Char) : Option (Reading × List Char) :=
  match c with
  | '(' => readGroup r cs
  | ')' => do some (← r.closeGroup?, cs)
  | '|' => some ({ r with frame := r.frame.branch }, cs)
  | '[' => do
    let (set, rest) ← readBracket r.flags cs
    some (r.push (.ofSet set.value) set.depth, rest)
  | '?' => readRepetition r 0 (some 1) cs
  | '*' => readRepetition r 0 none cs
  | '+' => readRepetition r 1 none cs
  | '\x7b' => readCounted r cs
  | '\\' => do
    let (a, rest) ← readEscape r.flags cs
    some (r.atom a, rest)
  | '.' => do some (r.atom (.set (← r.flags.dot?)), cs)
  | '^' => some (r.atom (.boundary r.flags.startAnchor), cs)
  | '$' => some (r.atom (.boundary r.flags.endAnchor), cs)
  | c => some (r.atom (.char c), cs)

-- Every part takes a character, so the length of the text is enough.
def readParts : (steps : Nat) → Reading → List Char → Option Reading
  | 0, _, _ => none
  | steps + 1, r, cs =>
    match skip r.flags.spaced cs with
    | [] => some r
    | c :: rest => do
      let (r, rest) ← readPart r c rest
      readParts steps r rest

-- A pattern with the numbers of its named groups.
structure Expression where
  pattern : Pattern
  names : List (String × Nat)

def read? (text : String) : Option Expression := do
  let r ← readParts (text.toList.length + 1) .start text.toList
  some ⟨← r.finish?, r.names⟩

end Rulebook.Regex
