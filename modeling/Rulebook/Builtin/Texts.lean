import Rulebook.Builtin.Arguments
import Rulebook.Regex.Replacement
import Rulebook.Regex.Size

/-!
Functions of strings.
-/

namespace Rulebook.Builtin

def textToText (name : String) (f : String → String) : Function :=
  ⟨name, .exact 1, true, fun arguments => do
    .ok (.string (f (← expectString name arguments 0)))⟩

-- A function of two strings, the second one given as its characters.
def onTexts (name : String) (f : List Char → List Char → Value) : Function :=
  ⟨name, .exact 2, true, fun arguments => do
    let text ← expectString name arguments 0
    let other ← expectString name arguments 1
    .ok (f text.toList other.toList)⟩

def ofChars (cs : List Char) : Value := .string (String.ofList cs)

def isPatternFlag (c : Char) : Bool :=
  c == 'i' || c == 'm' || c == 's' || c == 'x'

-- Flags stand in front of the pattern, as if they were written there.
def withFlags (flags pattern : String) : String :=
  if flags.isEmpty then pattern else "(?" ++ flags ++ ")" ++ pattern

section

variable (function : String) (arguments : List Value)

def optionalString (index : Nat) : Outcome String :=
  if index < arguments.length then expectString function arguments index else .ok ""

-- The pattern at one index with the flags at another, if there are any.
def expectPattern (index flagsIndex : Nat) : Outcome Regex.Expression := do
  let pattern ← expectString function arguments index
  let flags ← optionalString function arguments flagsIndex
  match flags.toList.find? (!isPatternFlag ·) with
  | some c => invalid function (.unsupportedFlag c)
  | none =>
    match Regex.read? (withFlags flags pattern) with
    | none => invalid function .malformedPattern
    | some e => if e.pattern.isTooLarge then invalid function .patternTooLarge else .ok e

end

def substring : Function :=
  ⟨"substring", .range 2 3, true, fun arguments => do
    let text ← expectString "substring" arguments 0
    .ok (ofChars (← selectPart "substring" arguments text.toList))⟩

def joinable (v : Value) : Outcome (Option String) :=
  match v with
  | .null => .ok none
  | .string s => .ok (some s)
  | v => invalid "string_join" (.other ("list items must be strings, got " ++ v.typeName))

def stringJoin : Function :=
  ⟨"string_join", .range 1 2, true, fun arguments => do
    let items ← expectList "string_join" arguments 0
    let delimiter ← optionalString "string_join" arguments 1
    let parts ← items.mapM joinable
    .ok (.string (Text.joined delimiter (parts.filterMap id)))⟩

def patternFunctions : List Function :=
  [⟨"matches", .range 2 3, true, fun arguments => do
      let text ← expectString "matches" arguments 0
      let e ← expectPattern "matches" arguments 1 2
      .ok (.boolean (e.pattern.occursIn text.toList))⟩,
   ⟨"replace", .range 3 4, true, fun arguments => do
      let text ← expectString "replace" arguments 0
      let e ← expectPattern "replace" arguments 1 3
      let replacement ← expectString "replace" arguments 2
      .ok (.string (e.replaceAll text replacement))⟩,
   ⟨"split", .exact 2, true, fun arguments => do
      let text ← expectString "split" arguments 0
      let e ← expectPattern "split" arguments 1 2
      .ok (.list ((e.pattern.split text.toList).map ofChars))⟩]

def texts : List Function :=
  [substring,
   ⟨"string_length", .exact 1, true, fun arguments => do
      .ok (.ofInt (← expectString "string_length" arguments 0).length)⟩,
   textToText "upper_case" Unicode.toUppercase,
   textToText "lower_case" Unicode.toLowercase,
   onTexts "substring_before" fun text other =>
     ofChars (((Text.splitAt? other text).map (·.1)).getD []),
   onTexts "substring_after" fun text other =>
     ofChars (((Text.splitAt? other text).map (·.2)).getD []),
   onTexts "contains" fun text other => .boolean (Text.splitAt? other text).isSome,
   onTexts "starts_with" fun text other => .boolean (other.isPrefixOf text),
   onTexts "ends_with" fun text other => .boolean (other.isSuffixOf text)] ++
  patternFunctions ++
  [stringJoin,
   textToText "trim" Text.trim,
   ⟨"string", .exact 1, true, fun arguments =>
      .ok (.string (((arguments[0]?).map Value.text).getD ""))⟩]

end Rulebook.Builtin
