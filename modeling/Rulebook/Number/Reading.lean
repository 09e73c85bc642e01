import Rulebook.Number.Shortest

/-!
Reading numbers from decimal text, always to the nearest number.
-/

namespace Rulebook.Number

-- The bounds spare the arithmetic on exponents far outside the range of the numbers.
def ofDecimal (negative : Bool) (d : Decimal) : Float :=
  let length : Int := (Nat.toDigits 10 d.digits).length
  if d.digits = 0 ∨ length + d.exponent < -330 then ofMagnitudeBits negative 0
  else if 330 < length + d.exponent then infinity negative
  else if 0 ≤ d.exponent then ofRatio negative (d.digits * Nat.pow 10 d.exponent.toNat) 1
  else ofRatio negative d.digits (Nat.pow 10 (-d.exponent).toNat)

def digitValue (c : Char) : Nat :=
  c.toNat - '0'.toNat

def digitsValue (digits : List Char) : Nat :=
  digits.foldl (fun value c => value * 10 + digitValue c) 0

def hexDigit? (c : Char) : Option Nat :=
  if c.isDigit then some (c.toNat - '0'.toNat)
  else if 'a' ≤ c ∧ c ≤ 'f' then some (c.toNat - 'a'.toNat + 10)
  else if 'A' ≤ c ∧ c ≤ 'F' then some (c.toNat - 'A'.toNat + 10)
  else none

-- Digits with a point between them.
def ofDigits (whole fraction : List Char) : Float :=
  ofDecimal false ⟨digitsValue (whole ++ fraction), -fraction.length⟩

-- The digits at the front, and the rest.
def spanDigits (cs : List Char) : List Char × List Char :=
  cs.span Char.isDigit

def sign (cs : List Char) : Bool × List Char :=
  match cs with
  | '+' :: rest => (false, rest)
  | '-' :: rest => (true, rest)
  | _ => (false, cs)

-- An exponent of decimal digits with an optional sign, to the end of the text.
def exponent? (cs : List Char) : Option Int :=
  let (negative, rest) := sign cs
  if rest.isEmpty || !rest.all Char.isDigit then none
  else some (if negative then -(digitsValue rest : Int) else digitsValue rest)

-- A sign, digits with a point anywhere among them, and an exponent; or a name of an infinity or of
-- the undefined number in any case. A text without digits is no number.
def read? (text : List Char) : Option Float :=
  let (negative, body) := sign text
  let name := String.ofList (body.map Char.toLower)
  if name == "inf" || name == "infinity" then some (infinity negative)
  else if name == "nan" then some undefined
  else
    let (whole, rest) := spanDigits body
    let (fraction, rest) :=
      match rest with
      | '.' :: rest => spanDigits rest
      | _ => ([], rest)
    let shift? :=
      match rest with
      | [] => some 0
      | c :: rest => if c == 'e' || c == 'E' then exponent? rest else none
    if whole.isEmpty && fraction.isEmpty then none
    else shift?.map fun shift =>
      ofDecimal negative ⟨digitsValue (whole ++ fraction), shift - fraction.length⟩

end Rulebook.Number
