import Rulebook.Unicode.Property

/-!
Text between double quotes. A character that would not show, or that would join the one before it,
is written by its code point.
-/

namespace Rulebook.Text

def codePointEscape (c : Char) : List Char :=
  ['\\', 'u', '\x7b'] ++ Nat.toDigits 16 c.toNat ++ ['\x7d']

def quotedChar (c : Char) : List Char :=
  if c = '\x00' then ['\\', '0']
  else if c = '\t' then ['\\', 't']
  else if c = '\r' then ['\\', 'r']
  else if c = '\n' then ['\\', 'n']
  else if c = '"' then ['\\', '"']
  else if c = '\\' then ['\\', '\\']
  else if Unicode.isPrintable c && !Unicode.isGraphemeExtend c then [c]
  else codePointEscape c

def quoted (s : String) : String :=
  String.ofList ('"' :: s.toList.flatMap quotedChar ++ ['"'])

-- Blanks at both ends are dropped.
def trim (s : String) : String :=
  let front := s.toList.dropWhile Unicode.isBlank
  String.ofList (front.reverse.dropWhile Unicode.isBlank).reverse

def isAllBlank (s : String) : Bool :=
  s.toList.all Unicode.isBlank

def firstChars (n : Nat) (cs : List Char) : String :=
  String.ofList (cs.take n)

def joined (separator : String) (parts : List String) : String :=
  separator.intercalate parts

end Rulebook.Text
