import Rulebook.Builtin.Basic
import Rulebook.Proofs.Builtin.Steps

/-!
The built-in functions, each with the steps to its answer that may not be defined: where it takes an
argument or an item by its index or cuts a text, and where it reckons with the integers of the
machine.
-/

namespace Rulebook.Builtin

open Rulebook.Guarded (step given)
open Value (checked)

structure GuardedFunction where
  name : String
  arity : Arity
  propagatesNull : Bool
  body : List Value → Guarded Value

def GuardedFunction.call (f : GuardedFunction) (arguments : List Value) : Guarded Value :=
  if !f.arity.accepts arguments.length then
    given (.error (.wrongCount f.name f.arity arguments.length))
  else if f.propagatesNull && arguments.any Value.isNull then pure .null
  else f.body arguments

namespace Guarded

-- A function without a step that may not be defined.
def steady (f : Function) : GuardedFunction :=
  ⟨f.name, f.arity, f.propagatesNull, fun arguments => given (f.body arguments)⟩

section Texts

def textToText (name : String) (f : String → String) : GuardedFunction :=
  ⟨name, .exact 1, true, fun arguments => do
    pure (.string (f (← expectString name arguments 0)))⟩

def onTexts (name : String) (f : List Char → List Char → Guarded Value) : GuardedFunction :=
  ⟨name, .exact 2, true, fun arguments => do
    let text ← expectString name arguments 0
    let other ← expectString name arguments 1
    f text.toList other.toList⟩

-- The byte at which the pattern first occurs.
def find? (pattern text : List Char) : Option ℕ :=
  (Text.splitAt? pattern text).map fun parts => byteLength parts.1

def textBefore (text pattern : List Char) : Guarded Value :=
  match find? pattern text with
  | none => pure (ofChars [])
  | some start => do
    let parts ← step (cutAt? start text)
    pure (ofChars parts.1)

def textAfter (text pattern : List Char) : Guarded Value :=
  match find? pattern text with
  | none => pure (ofChars [])
  | some start => do
    let finish ← step (word? (start + byteLength pattern))
    let parts ← step (cutAt? finish text)
    pure (ofChars parts.2)

section

variable (function : String) (arguments : List Value) (index : ℕ)

def optionalString : Guarded String :=
  match arguments[index]? with
  | some _ => expectString function arguments index
  | none => pure ""

def expectPattern (flagsIndex : ℕ) : Guarded Regex.Expression := do
  let pattern ← expectString function arguments index
  let flags ← optionalString function arguments flagsIndex
  match flags.toList.find? (!isPatternFlag ·) with
  | some c => given (invalid function (.unsupportedFlag c))
  | none =>
    match Regex.read? (withFlags flags pattern) with
    | none => given (invalid function .malformedPattern)
    | some e =>
      if e.pattern.isTooLarge then given (invalid function .patternTooLarge) else pure e

-- The flags stand right behind the pattern.
def compile : Guarded Regex.Expression := do
  let flagsIndex ← step (word? (index + 1))
  expectPattern function arguments index flagsIndex

end

-- The unit is a constant, but is divided by all the same.
def secondsText? (millis : ℕ) : Option String := do
  let (seconds, rest) ← divided? millis 1000
  if millis = 0 then some ""
  else if rest = 0 then some (toString seconds ++ "S")
  else some (Number.text (Number.ofInt millis / 1000) ++ "S")

def timeText? (millis : ℕ) : Option String :=
  if millis = 0 then some ""
  else do
    let (hours, inHour) ← divided? millis 3600000
    let (minutes, _) ← divided? inHour 60000
    let (_, inMinute) ← divided? millis 60000
    let seconds ← secondsText? inMinute
    some ("T" ++ Calendar.component hours "H" ++ Calendar.component minutes "M" ++ seconds)

def durationText? (d : Calendar.Duration) : Option String :=
  if d = Calendar.Duration.zero then some "PT0S"
  else do
    let (years, months) ← divided? d.months.natAbs 12
    let (days, rest) ← divided? d.millis.natAbs 86400000
    let time ← timeText? rest
    some ((if d.months < 0 ∨ d.millis < 0 then "-P" else "P") ++ Calendar.component years "Y" ++
      Calendar.component months "M" ++ Calendar.component days "D" ++ time)

mutual

def textWith? (quotes : Bool) : Value → Option String
  | .duration d => durationText? d
  | .list items => do some ("[" ++ Text.joined ", " (← itemTexts? items) ++ "]")
  | .context entries => do some ("\x7b" ++ Text.joined ", " (← entryTexts? entries) ++ "\x7d")
  | .range s f i j => do
    let start ← textWith? true s
    let finish ← textWith? true f
    some ((if i then "[" else "(") ++ start ++ ".." ++ finish ++ (if j then "]" else ")"))
  | v => some (v.textWith quotes)

def itemTexts? : List Value → Option (List String)
  | [] => some []
  | v :: vs => do
    let first ← textWith? true v
    let others ← itemTexts? vs
    some (first :: others)

def entryTexts? : List (String × Value) → Option (List String)
  | [] => some []
  | (key, v) :: rest => do
    let first ← textWith? true v
    let others ← entryTexts? rest
    some ((key ++ ": " ++ first) :: others)

end

def texts : List GuardedFunction :=
  [⟨"substring", .range 2 3, true, fun arguments => do
      let text ← expectString "substring" arguments 0
      pure (ofChars (← selectPart "substring" arguments text.toList))⟩,
   ⟨"string_length", .exact 1, true, fun arguments => do
      pure (.ofInt (← expectString "string_length" arguments 0).length)⟩,
   textToText "upper_case" Unicode.toUppercase,
   textToText "lower_case" Unicode.toLowercase,
   onTexts "substring_before" textBefore,
   onTexts "substring_after" textAfter,
   onTexts "contains" fun text other => pure (.boolean (Text.splitAt? other text).isSome),
   onTexts "starts_with" fun text other => pure (.boolean (other.isPrefixOf text)),
   onTexts "ends_with" fun text other => pure (.boolean (other.isSuffixOf text)),
   ⟨"matches", .range 2 3, true, fun arguments => do
      let text ← expectString "matches" arguments 0
      let e ← compile "matches" arguments 1
      pure (.boolean (e.pattern.occursIn text.toList))⟩,
   ⟨"replace", .range 3 4, true, fun arguments => do
      let text ← expectString "replace" arguments 0
      let e ← expectPattern "replace" arguments 1 3
      let replacement ← expectString "replace" arguments 2
      pure (.string (e.replaceAll text replacement))⟩,
   ⟨"split", .exact 2, true, fun arguments => do
      let text ← expectString "split" arguments 0
      let e ← compile "split" arguments 1
      pure (.list ((e.pattern.split text.toList).map ofChars))⟩,
   ⟨"string_join", .range 1 2, true, fun arguments => do
      let items ← expectList "string_join" arguments 0
      let delimiter ← optionalString "string_join" arguments 1
      let parts ← given (items.mapM joinable)
      pure (.string (Text.joined delimiter (parts.filterMap id)))⟩,
   textToText "trim" Text.trim,
   ⟨"string", .exact 1, true, fun arguments => do
      let v ← step arguments[0]?
      pure (.string (← step (textWith? false v)))⟩]

end Texts

section Arithmetic

def numeric (name : String) (f : Float → Float) : GuardedFunction :=
  ⟨name, .exact 1, true, fun arguments => do
    pure (.number (f (← expectNumber name arguments 0)))⟩

def parity (name : String) (accept : ℤ → Bool) : GuardedFunction :=
  ⟨name, .exact 1, true, fun arguments => do
    let n ← expectInteger name arguments 0
    pure (.boolean (accept (← step (remainder? n 2))))⟩

def optionalInteger (function : String) (arguments : List Value) (index : ℕ) : Guarded ℤ :=
  match arguments[index]? with
  | some _ => expectInteger function arguments index
  | none => pure 0

def toNumber (arguments : List Value) : Guarded Value := do
  match ← step arguments[0]? with
  | .number x => pure (.number x)
  | .string s => given (numberOfText s)
  | v => given (invalid "number" (.other ("cannot convert " ++ v.typeName ++ " to number")))

def arithmetic : List GuardedFunction :=
  [numeric "abs" Float.abs,
   numeric "floor" Number.floor,
   numeric "ceiling" Number.ceiling,
   ⟨"decimal", .exact 2, true, fun arguments => do
      let x ← expectNumber "decimal" arguments 0
      let places ← expectInteger "decimal" arguments 1
      pure (.number (Number.roundAt Number.roundToEven x places))⟩,
   ⟨"round", .range 1 2, true, fun arguments => do
      let x ← expectNumber "round" arguments 0
      let places ← optionalInteger "round" arguments 1
      pure (.number (Number.roundAt Number.round x places))⟩,
   ⟨"modulo", .exact 2, true, fun arguments => do
      let dividend ← expectNumber "modulo" arguments 0
      let divisor ← expectNumber "modulo" arguments 1
      match Number.modulo? dividend divisor with
      | some x => pure (.number x)
      | none => given (.error .divisionByZero)⟩,
   ⟨"sqrt", .exact 1, true, fun arguments => do
      let x ← expectNumber "sqrt" arguments 0
      if Number.less x 0 then given (invalid "sqrt" (.other "negative operand"))
      else pure (.number x.sqrt)⟩,
   ⟨"number", .exact 1, true, toNumber⟩,
   parity "odd" (· != 0),
   parity "even" (· == 0)]

end Arithmetic

section Lists

def median (numbers : List Float) : Guarded Float := do
  let ordered := numbers.mergeSort fun x y => Number.totalKey x ≤ Number.totalKey y
  let (middle, rest) ← step (divided? ordered.length 2)
  if rest = 0 then
    let below ← step (word? (middle - 1))
    let x ← step ordered[below]?
    let y ← step ordered[middle]?
    pure ((x + y) / 2)
  else step ordered[middle]?

def onList (name : String) (arity : Arity) (f : List Value → List Value → Guarded Value) :
    GuardedFunction :=
  ⟨name, arity, false, fun arguments => do
    match ← step arguments[0]? with
    | .null => pure .null
    | _ => f arguments (← expectList name arguments 0)⟩

def joinLists (function : String) (arguments : List Value) : Guarded (List Value) := do
  let lists ← (List.range arguments.length).mapM fun i => expectList function arguments i
  pure lists.flatten

def listToList (name : String) (f : List Value → List Value) : GuardedFunction :=
  ⟨name, .exact 1, true, fun arguments => do
    pure (.list (f (← expectList name arguments 0)))⟩

-- The position of an item that equals the second argument.
def positionOf (arguments : List Value) (item : Value) (i : ℕ) : Guarded (Option Value) := do
  let wanted ← step arguments[1]?
  if item == wanted then pure (some (Value.ofInt (← step (word? (i + 1))))) else pure none

def lists : List GuardedFunction :=
  [⟨"count", .exact 1, true, fun arguments => do
      pure (.ofInt (← expectList "count" arguments 0).length)⟩,
   steady (extreme "min" .lt),
   steady (extreme "max" .gt),
   steady (aggregate "sum" total),
   steady (aggregate "mean" average),
   steady (aggregate "product" product),
   ⟨"median", .atLeast 1, false, fun arguments => do
      match ← given (aggregated "median" (listOrItems arguments)) with
      | some numbers => pure (.number (← median numbers))
      | none => pure .null⟩,
   onList "list_contains" (.exact 2) fun arguments items => do
     let wanted ← step arguments[1]?
     pure (.boolean (items.any (· == wanted))),
   onList "append" (.atLeast 1) fun arguments items => do
     let others ← step (slice? arguments 1 arguments.length)
     pure (.list (items ++ others)),
   ⟨"concatenate", .atLeast 0, true, fun arguments => do
      pure (.list (← joinLists "concatenate" arguments))⟩,
   listToList "reverse" List.reverse,
   ⟨"index_of", .exact 2, false, fun arguments => do
      let items ← expectList "index_of" arguments 0
      let found ← items.zipIdx.mapM fun (item, i) => positionOf arguments item i
      pure (.list (found.filterMap id))⟩,
   listToList "distinct_values" distinct,
   ⟨"union", .atLeast 0, true, fun arguments => do
      pure (.list (distinct (← joinLists "union" arguments)))⟩,
   listToList "flatten" flattenedItems,
   ⟨"sort", .exact 1, true, fun arguments => do
      let items ← expectList "sort" arguments 0
      pure (.list (← given (sortItems items)))⟩,
   ⟨"sublist", .range 2 3, true, fun arguments => do
      let items ← expectList "sublist" arguments 0
      pure (.list (← selectPart "sublist" arguments items))⟩]

def truth : List GuardedFunction :=
  [steady ⟨"all", .atLeast 1, false, fun arguments =>
      .ok (decidedBy false (listOrItems arguments))⟩,
   steady ⟨"any", .atLeast 1, false, fun arguments =>
      .ok (decidedBy true (listOrItems arguments))⟩,
   ⟨"is_null", .exact 1, false, fun arguments => do
      let v ← step arguments[0]?
      pure (.boolean v.isNull)⟩]

end Lists

section Calendars

open Calendar

def dateOfParts (arguments : List Value) : Guarded Value := do
  let year ← expectInteger "date" arguments 0
  let month ← expectInteger "date" arguments 1
  let day ← expectInteger "date" arguments 2
  match dateOfParts? year month day with
  | some d => pure (.date d)
  | none => given (malformedParts .date "-" [toString year, toString month, toString day])

def makeDate (arguments : List Value) : Guarded Value :=
  match arguments with
  | [.string s] => given do .ok (.date (← orError (readDate s)))
  | [.dateTime d] => pure (.date d.date)
  | [.date d] => pure (.date d)
  | [_, _, _] => dateOfParts arguments
  | _ => given <| invalid "date" <|
    .other "expected a string, a date and time, or year, month and day"

def timeOfParts (arguments : List Value) : Guarded Value := do
  let hour ← expectInteger "time" arguments 0
  let minute ← expectInteger "time" arguments 1
  match ← step arguments[2]? with
  | .number second =>
    match timeOfParts? hour minute second with
    | some t => pure (.time t)
    | none =>
      given (malformedParts .time ":" [toString hour, toString minute, Number.text second])
  | v => given (invalid "time" (.wrongType 3 "number" (some v)))

def makeTime (arguments : List Value) : Guarded Value :=
  match arguments with
  | [.string s] => given do .ok (.time (← orError (readTime s)))
  | [.dateTime d] => pure (.time d.time)
  | [.time t] => pure (.time t)
  | [_, _, _] => timeOfParts arguments
  | _ => given <| invalid "time" <|
    .other "expected a string, a date and time, or hour, minute and second"

def monthsBetween? (finish start : Date) : Option ℤ := do
  let years ← checked (finish.year - start.year)
  let months ← checked (years * 12)
  let months ← checked (months + finish.month)
  let months ← checked (months - start.month)
  if 0 < months ∧ finish.day < start.day then checked (months - 1)
  else if months < 0 ∧ start.day < finish.day then checked (months + 1)
  else some months

def calendars : List GuardedFunction :=
  [⟨"date", .range 1 3, true, makeDate⟩,
   ⟨"time", .range 1 3, true, makeTime⟩,
   steady ⟨"date_and_time", .range 1 2, true, makeDateTime⟩,
   ⟨"duration", .exact 1, true, fun arguments => do
      let text ← expectString "duration" arguments 0
      pure (.duration (← given (orError (readDuration text))))⟩,
   ⟨"years_and_months_duration", .exact 2, true, fun arguments => do
      let start ← given (calendarDate "years_and_months_duration" (← step arguments[0]?))
      let finish ← given (calendarDate "years_and_months_duration" (← step arguments[1]?))
      pure (.duration ⟨← step (monthsBetween? finish start), 0⟩)⟩,
   ⟨"day_of_week", .exact 1, true, fun arguments => do
      let date ← given (calendarDate "day_of_week" (← step arguments[0]?))
      pure (.string date.weekdayName)⟩]

end Calendars

def functions : List GuardedFunction := texts ++ arithmetic ++ lists ++ truth ++ calendars

def call (name : String) (arguments : List Value) : Guarded Value :=
  match functions.find? (·.name == name) with
  | some f => f.call arguments
  | none => given (.error (.unknownFunction name))

end Guarded

end Rulebook.Builtin
