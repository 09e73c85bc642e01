import Rulebook.Text.Split
import Rulebook.Unicode.Boundary
import Rulebook.Unicode.Version

/-!
Sets of characters that patterns know by name.
-/

namespace Rulebook.Regex.CharClass

open Unicode (Category)

def isAscii (c : Char) : Bool := c.toNat < 128

def isHexDigit (c : Char) : Bool :=
  c.isDigit || ('a' ≤ c && c ≤ 'f') || ('A' ≤ c && c ≤ 'F')

def ascii : CharSet := .ofRanges [(0, 0x7f)]

def asciiDigits : CharSet := .between '0' '9'

def asciiSpaces : CharSet := .ofCharRanges [('\t', '\r'), (' ', ' ')]

def asciiWords : CharSet := .ofCharRanges [('0', '9'), ('A', 'Z'), ('_', '_'), ('a', 'z')]

def hexDigits : CharSet := .ofCharRanges [('0', '9'), ('A', 'F'), ('a', 'f')]

-- The classes written `[:name:]`.
def ascii? : String → Option CharSet
  | "alnum" => some (.ofCharRanges [('0', '9'), ('A', 'Z'), ('a', 'z')])
  | "alpha" => some (.ofCharRanges [('A', 'Z'), ('a', 'z')])
  | "ascii" => some ascii
  | "blank" => some (.ofCharRanges [('\t', '\t'), (' ', ' ')])
  | "cntrl" => some (.ofRanges [(0, 31), (127, 127)])
  | "digit" => some asciiDigits
  | "graph" => some (.between '!' '~')
  | "lower" => some (.between 'a' 'z')
  | "print" => some (.between ' ' '~')
  | "punct" => some (.ofCharRanges [('!', '/'), (':', '@'), ('[', '\x60'), ('\x7b', '~')])
  | "space" => some asciiSpaces
  | "upper" => some (.between 'A' 'Z')
  | "word" => some asciiWords
  | "xdigit" => some hexDigits
  | _ => none

def blanks : CharSet := .ofRanges Unicode.blankRanges

def decimalDigits : CharSet := .ofCategories (· == .decimalNumber)

def joiners : CharSet := .ofRanges [(0x200c, 0x200d)]

-- Letters, marks, decimal digits, connectors and the two joiners.
def words : CharSet :=
  let marked := CharSet.ofCategories fun category =>
    category.isMark || category == .decimalNumber || category == .connectorPunctuation
  ((CharSet.ofProperty .alphabetic).union marked).union joiners

def digits (unicode : Bool) : CharSet := if unicode then decimalDigits else asciiDigits

def spaces (unicode : Bool) : CharSet := if unicode then blanks else asciiSpaces

def wordCharacters (unicode : Bool) : CharSet := if unicode then words else asciiWords

-- The classes of one letter, such as `\d`; a capital letter negates.
def short? (unicode : Bool) (c : Char) : Option CharSet :=
  match c.toLower with
  | 'd' => some (digits unicode)
  | 's' => some (spaces unicode)
  | 'w' => some (wordCharacters unicode)
  | _ => none

def category? (name : String) : Option (Category → Bool) :=
  match name with
  | "lu" | "uppercaseletter" => some (· == .uppercaseLetter)
  | "ll" | "lowercaseletter" => some (· == .lowercaseLetter)
  | "lt" | "titlecaseletter" => some (· == .titlecaseLetter)
  | "lc" | "casedletter" => some fun c =>
    c == .uppercaseLetter || c == .lowercaseLetter || c == .titlecaseLetter
  | "lm" | "modifierletter" => some (· == .modifierLetter)
  | "lo" | "otherletter" => some (· == .otherLetter)
  | "l" | "letter" => some Category.isLetter
  | "mn" | "nonspacingmark" => some (· == .nonspacingMark)
  | "mc" | "spacingmark" => some (· == .spacingMark)
  | "me" | "enclosingmark" => some (· == .enclosingMark)
  | "m" | "mark" | "combiningmark" => some Category.isMark
  | "nd" | "decimalnumber" | "digit" => some (· == .decimalNumber)
  | "nl" | "letternumber" => some (· == .letterNumber)
  | "no" | "othernumber" => some (· == .otherNumber)
  | "n" | "number" => some Category.isNumber
  | "pc" | "connectorpunctuation" => some (· == .connectorPunctuation)
  | "pd" | "dashpunctuation" => some (· == .dashPunctuation)
  | "ps" | "openpunctuation" => some (· == .openPunctuation)
  | "pe" | "closepunctuation" => some (· == .closePunctuation)
  | "pi" | "initialpunctuation" => some (· == .initialPunctuation)
  | "pf" | "finalpunctuation" => some (· == .finalPunctuation)
  | "po" | "otherpunctuation" => some (· == .otherPunctuation)
  | "p" | "punctuation" | "punct" => some Category.isPunctuation
  | "sm" | "mathsymbol" => some (· == .mathSymbol)
  | "sc" | "currencysymbol" => some (· == .currencySymbol)
  | "sk" | "modifiersymbol" => some (· == .modifierSymbol)
  | "so" | "othersymbol" => some (· == .otherSymbol)
  | "s" | "symbol" => some Category.isSymbol
  | "zs" | "spaceseparator" => some (· == .spaceSeparator)
  | "zl" | "lineseparator" => some (· == .lineSeparator)
  | "zp" | "paragraphseparator" => some (· == .paragraphSeparator)
  | "z" | "separator" => some Category.isSeparator
  | "cc" | "control" | "cntrl" => some (· == .control)
  | "cf" | "format" => some (· == .format)
  | "co" | "privateuse" => some (· == .privateUse)
  | "cn" | "unassigned" => some (· == .unassigned)
  | "c" | "other" => some Category.isOther
  | "assigned" => some (· != .unassigned)
  | "any" => some fun _ => true
  | _ => none

def general? (name : String) : Option CharSet :=
  if name = "ascii" then some ascii else (category? name).map CharSet.ofCategories

-- The members that do not follow from their category.
def further (p : Unicode.Property) : CharSet :=
  (CharSet.ofProperty p).difference (.ofCategories p.hasCategory)

def binary? : String → Option CharSet
  | "alphabetic" | "alpha" => some (.ofProperty .alphabetic)
  | "lowercase" | "lower" => some (.ofProperty .lowercase)
  | "uppercase" | "upper" => some (.ofProperty .uppercase)
  | "whitespace" | "wspace" | "space" => some blanks
  | "cased" =>
    some (((CharSet.ofProperty .lowercase).union (.ofProperty .uppercase)).union
      (.ofCategories (· == .titlecaseLetter)))
  | "caseignorable" | "ci" => some (.ofProperty .caseIgnorable)
  | "graphemeextend" | "grext" => some (.ofProperty .graphemeExtend)
  | "otheralphabetic" | "oalpha" => some (further .alphabetic)
  | "otherlowercase" | "olower" => some (further .lowercase)
  | "otheruppercase" | "oupper" => some (further .uppercase)
  | "othergraphemeextend" | "ogrext" => some (further .graphemeExtend)
  | "othermath" | "omath" =>
    (Unicode.namedProperty? "math").map (·.difference (.ofCategories (· == .mathSymbol)))
  | "asciihexdigit" | "ahex" => some hexDigits
  | "joincontrol" | "joinc" => some joiners
  | name => Unicode.namedProperty? name

def script? (name : String) : Option CharSet :=
  (Unicode.scriptNumber? name).map Unicode.scriptSet

-- Case and separators do not count, nor does an `is` in front.
def normalName (name : List Char) : String :=
  let plain := (name.filter fun c => isAscii c && c != ' ' && c != '_' && c != '-').map Char.toLower
  match name.take 2 |>.map Char.toLower with
  | ['i', 's'] => if plain == ['i', 's', 'c'] then "isc" else String.ofList (plain.drop 2)
  | _ => String.ofList plain

def named? (name : String) : Option CharSet :=
  (binary? name).or <| (general? name).or <| script? name

def valued? (property value : String) : Option CharSet :=
  match property with
  | "generalcategory" | "gc" => general? value
  | "script" | "sc" => script? value
  | "scriptextensions" | "scx" =>
    (Unicode.scriptNumber? value).map Unicode.scriptExtensionSet
  | "age" => Unicode.version? value
  | "graphemeclusterbreak" | "gcb" => Unicode.Boundary.grapheme? value
  | "wordbreak" | "wb" => Unicode.Boundary.word? value
  | "sentencebreak" | "sb" => Unicode.Boundary.sentence? value
  | _ => none

-- The text between the braces of `\p`: a name, or a property with its value. The flag is set where
-- the value is excluded.
def property? (text : List Char) : Option (CharSet × Bool) :=
  let valued (p v : List Char) := valued? (normalName p) (normalName v)
  match Text.splitAt? ['!', '='] text with
  | some (p, v) => (valued p v).map (·, true)
  | none =>
    match (Text.splitAt? [':'] text).or (Text.splitAt? ['='] text) with
    | some (p, v) => (valued p v).map (·, false)
    | none => (named? (normalName text)).map (·, false)

end Rulebook.Regex.CharClass
