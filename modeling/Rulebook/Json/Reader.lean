import Rulebook.Json.Numeral

/-!
Reading JSON text. Each reader takes its part from the front of the text and gives the rest.
-/

namespace Rulebook.Json

def isSpace (c : Char) : Bool :=
  c == ' ' || c == '\n' || c == '\t' || c == '\r'

def skipSpace (cs : List Char) : List Char :=
  cs.dropWhile isSpace

def readWord (word : String) (json : Json) (cs : List Char) : Option (Json × List Char) :=
  let letters := word.toList
  if letters.isPrefixOf cs then some (json, cs.drop letters.length) else none

-- No zero stands in front of another digit.
def readNumeral (cs : List Char) : Option (Numeral × List Char) := do
  let (negative, cs) :=
    match cs with
    | '-' :: rest => (true, rest)
    | _ => (false, cs)
  let (whole, cs) := Number.spanDigits cs
  if whole.isEmpty || (whole.head? == some '0' && 1 < whole.length) then none
  let (fraction, cs) ←
    match cs with
    | '.' :: rest =>
      let (digits, rest) := Number.spanDigits rest
      if digits.isEmpty then none else some (digits, rest)
    | _ => some ([], cs)
  match cs with
  | c :: rest =>
    if c == 'e' || c == 'E' then
      let (minus, rest) := Number.sign rest
      let (digits, rest) := Number.spanDigits rest
      if digits.isEmpty then none
      else
        let n : Int := Number.digitsValue digits
        some (⟨negative, whole, fraction, some (if minus then -n else n)⟩, rest)
    else some (⟨negative, whole, fraction, none⟩, cs)
  | [] => some (⟨negative, whole, fraction, none⟩, cs)

def readUnit : List Char → Option (Nat × List Char)
  | a :: b :: c :: d :: rest => do
    let unit := ((← Number.hexDigit? a) * 16 + (← Number.hexDigit? b)) * 256 +
      ((← Number.hexDigit? c) * 16 + (← Number.hexDigit? d))
    some (unit, rest)
  | _ => none

-- What is wanted of a value: nothing, all of it, or the fields of some names, in their order. What
-- is not wanted must have the form of JSON, but its text need not be made of characters.
inductive Wanted
  | nothing
  | all
  | record (fields : List (String × Wanted))

namespace Wanted

def isNothing : Wanted → Bool
  | nothing => true
  | _ => false

def field (w : Wanted) (name : String) : Wanted :=
  match w with
  | record fields => (fields.lookup name).getD nothing
  | w => w

-- Of the first item of an array, and of those behind it.
def items : Wanted → Wanted × Wanted
  | record [] => (all, all)
  | record ((_, first) :: rest) => (first, record rest)
  | w => (w, w)

end Wanted

def isHighUnit (unit : Nat) : Bool := 0xd800 ≤ unit && unit < 0xdc00

def isLowUnit (unit : Nat) : Bool := 0xdc00 ≤ unit && unit < 0xe000

def readLowUnit : List Char → Option (Nat × List Char)
  | '\\' :: 'u' :: rest => (readUnit rest).filter fun (unit, _) => isLowUnit unit
  | _ => none

-- Half of a pair stands for no character.
def loneUnit (lenient : Bool) : Option Char :=
  if lenient then some (Char.ofNat 0xfffd) else none

-- A code point beyond 16 bits is written as two units.
def readCodePoint (lenient : Bool) (cs : List Char) : Option (Char × List Char) := do
  let (unit, rest) ← readUnit cs
  if isHighUnit unit then
    match readLowUnit rest with
    | some (low, rest) =>
      some (Char.ofNat (0x10000 + (unit - 0xd800) * 1024 + (low - 0xdc00)), rest)
    | none => some (← loneUnit lenient, rest)
  else if isLowUnit unit then some (← loneUnit lenient, rest)
  else some (Char.ofNat unit, rest)

def readEscape (lenient : Bool) : List Char → Option (Char × List Char)
  | '"' :: rest => some ('"', rest)
  | '\\' :: rest => some ('\\', rest)
  | '/' :: rest => some ('/', rest)
  | 'b' :: rest => some ('\x08', rest)
  | 'f' :: rest => some ('\x0c', rest)
  | 'n' :: rest => some ('\n', rest)
  | 'r' :: rest => some ('\r', rest)
  | 't' :: rest => some ('\t', rest)
  | 'u' :: rest => readCodePoint lenient rest
  | _ => none

-- The text up to the closing quote; `done` is what came before, last character first.
def readString (lenient : Bool) (done : List Char) :
    (fuel : Nat) → List Char → Option (String × List Char)
  | 0, _ => none
  | fuel + 1, cs =>
    match cs with
    | [] => none
    | '"' :: rest => some (String.ofList done.reverse, rest)
    | '\\' :: rest => do
      let (c, rest) ← readEscape lenient rest
      readString lenient (c :: done) fuel rest
    | c :: rest => if c.toNat < 32 then none else readString lenient (c :: done) fuel rest

mutual

-- Each reader below takes at least one character for each unit of fuel.
def readValue : (fuel : Nat) → Wanted → List Char → Option (Json × List Char)
  | 0, _, _ => none
  | fuel + 1, wanted, cs =>
    match skipSpace cs with
    | 'n' :: rest => readWord "ull" .null rest
    | 't' :: rest => readWord "rue" (.bool true) rest
    | 'f' :: rest => readWord "alse" (.bool false) rest
    | '"' :: rest =>
      (readString wanted.isNothing [] fuel rest).map fun (s, rest) => (.string s, rest)
    | '[' :: rest =>
      match skipSpace rest with
      | ']' :: rest => some (.array [], rest)
      | rest => (readItems fuel wanted rest).map fun (items, rest) => (.array items, rest)
    | '\x7b' :: rest =>
      match skipSpace rest with
      | '\x7d' :: rest => some (.object [], rest)
      | rest => (readFields fuel wanted rest).map fun (fields, rest) => (.object fields, rest)
    | cs => (readNumeral cs).map fun (n, rest) => (n.toJson, rest)

def readItems : (fuel : Nat) → Wanted → List Char → Option (List Json × List Char)
  | 0, _, _ => none
  | fuel + 1, wanted, cs => do
    let (wanted, wantedBehind) := wanted.items
    let (item, rest) ← readValue fuel wanted cs
    match skipSpace rest with
    | ',' :: rest =>
      let (items, rest) ← readItems fuel wantedBehind rest
      some (item :: items, rest)
    | ']' :: rest => some ([item], rest)
    | _ => none

def readFields : (fuel : Nat) → Wanted → List Char → Option (Fields × List Char)
  | 0, _, _ => none
  | fuel + 1, wanted, cs => do
    let cs ←
      match skipSpace cs with
      | '"' :: rest => some rest
      | _ => none
    let (key, rest) ← readString wanted.isNothing [] fuel cs
    let rest ←
      match skipSpace rest with
      | ':' :: rest => some rest
      | _ => none
    let (value, rest) ← readValue fuel (wanted.field key) rest
    match skipSpace rest with
    | ',' :: rest =>
      let (fields, rest) ← readFields fuel wanted rest
      some ((key, value) :: fields, rest)
    | '\x7d' :: rest => some ([(key, value)], rest)
    | _ => none

end

-- The whole text is one value, of which something is wanted.
def readWanted? (wanted : Wanted) (text : String) : Option Json := do
  let cs := text.toList
  let (json, rest) ← readValue (2 * cs.length + 2) wanted cs
  if (skipSpace rest).isEmpty then some json else none

def read? : String → Option Json := readWanted? .all

end Rulebook.Json
