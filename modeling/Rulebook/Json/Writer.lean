import Rulebook.Json.Basic

/-!
JSON text without spaces, fields in the order given.
-/

namespace Rulebook.Json

def hexByte (n : Nat) : List Char :=
  let digits := Nat.toDigits 16 n
  List.replicate (2 - digits.length) '0' ++ digits

def escapedChar (c : Char) : List Char :=
  if c = '"' then ['\\', '"']
  else if c = '\\' then ['\\', '\\']
  else if c = '\x08' then ['\\', 'b']
  else if c = '\x0c' then ['\\', 'f']
  else if c = '\n' then ['\\', 'n']
  else if c = '\r' then ['\\', 'r']
  else if c = '\t' then ['\\', 't']
  else if c.toNat < 32 then ['\\', 'u', '0', '0'] ++ hexByte c.toNat
  else [c]

def stringText (s : String) : String :=
  String.ofList ('"' :: s.toList.flatMap escapedChar ++ ['"'])

-- The point stands among the digits, or next to them, from `0.00001` up to sixteen digits before
-- it; other numbers have one digit before it and an exponent with its sign.
def decimalText (d : Number.Decimal) : List Char :=
  let digits := Nat.toDigits 10 d.digits
  let places : Int := digits.length + d.exponent
  if d.digits = 0 then "0.0".toList
  else if 0 ≤ d.exponent ∧ places ≤ 16 then d.positional ++ ".0".toList
  else if -5 < places ∧ places ≤ 16 then d.positional
  else
    let tail := if digits.length = 1 then [] else '.' :: digits.drop 1
    let exponent := places - 1
    let sign := if exponent < 0 then '-' else '+'
    digits.take 1 ++ tail ++ ['e', sign] ++ Nat.toDigits 10 exponent.natAbs

def realText (x : Float) : String :=
  match Number.parts x with
  | .finite negative mantissa exponent =>
    Number.signText negative ++
      String.ofList (decimalText (Number.shortest (fun below => below % 2 == 1) mantissa exponent))
  | _ => "null"

mutual

def text : Json → String
  | null => "null"
  | bool b => if b then "true" else "false"
  | integer n => toString n
  | real x => realText x
  | string s => stringText s
  | array items => "[" ++ String.intercalate "," (itemTexts items) ++ "]"
  | object fields => "\x7b" ++ String.intercalate "," (fieldTexts fields) ++ "\x7d"

def itemTexts : List Json → List String
  | [] => []
  | item :: items => text item :: itemTexts items

def fieldTexts : Fields → List String
  | [] => []
  | (key, value) :: fields => (stringText key ++ ":" ++ text value) :: fieldTexts fields

end

end Rulebook.Json
