import Rulebook.Unicode.PropertyTable
import Rulebook.Unicode.Script

/-!
Classes of characters that tell where graphemes, words and sentences end, by their names. The three
divisions share marks, formats and numbers.
-/

namespace Rulebook.Unicode.Boundary

def unionAll (sets : List CharSet) : CharSet := sets.foldl .union .none

def ofCategory (category : Category) : CharSet := .ofCategories (· == category)

def ofNamed (name : String) : CharSet := (namedProperty? name).getD .none

def ofScript (name : String) : CharSet := (scriptNumber? name).elim .none scriptSet

def ofCodes (codes : List Nat) : CharSet := .ofCodePoints codes

def carriageReturns : CharSet := ofCodes [0xd]

def lineFeeds : CharSet := ofCodes [0xa]

def joiners : CharSet := ofCodes [0x200d]

def extending : CharSet := .ofProperty .graphemeExtend

-- Marks of all kinds, with what else extends a grapheme.
def marks : CharSet := extending.union (ofCategory .spacingMark)

def skinTones : CharSet := ofNamed "emojimodifier"

def regionalIndicators : CharSet := ofNamed "regionalindicator"

-- Signs around or in front of a number.
def numberSigns : CharSet :=
  .ofRanges [(0x600, 0x605), (0x6dd, 0x6dd), (0x890, 0x891), (0x8e2, 0x8e2), (0x110bd, 0x110bd),
    (0x110cd, 0x110cd)]

def numeric : CharSet :=
  unionAll [ofCategory .decimalNumber, ofCodes [0x66b, 0x19da], numberSigns]

-- Graphemes

def graphemeExtend : CharSet := extending.union skinTones

-- Consonants that are written in front of another one, and the signs of numbers.
def graphemePrepend : CharSet :=
  (ofNamed "prependedconcatenationmark").union <| .ofRanges [(0xd4e, 0xd4e), (0x111c2, 0x111c3),
    (0x113d1, 0x113d1), (0x1193f, 0x1193f), (0x11941, 0x11941), (0x11a3a, 0x11a3a),
    (0x11a84, 0x11a89), (0x11d46, 0x11d46), (0x11f02, 0x11f02)]

def graphemeControl : CharSet :=
  let ignorable := (ofCategory .unassigned).intersection (ofNamed "defaultignorablecodepoint")
  let controls := CharSet.ofCategories fun category =>
    category == .lineSeparator || category == .paragraphSeparator || category == .control ||
      category == .format
  (controls.union ignorable).difference <|
    unionAll [carriageReturns, lineFeeds, joiners, graphemeExtend,
      ofNamed "prependedconcatenationmark"]

-- Spacing marks of the scripts without conjuncts stand alone.
def graphemeSpacingMark : CharSet :=
  ((ofCategory .spacingMark).union (ofCodes [0xe33, 0xeb3])).difference <| graphemeExtend.union <|
    .ofRanges [(0x102b, 0x102c), (0x1038, 0x1038), (0x1062, 0x1064), (0x1067, 0x106d),
      (0x1083, 0x1083), (0x1087, 0x108c), (0x108f, 0x108f), (0x109a, 0x109c), (0x1a61, 0x1a61),
      (0x1a63, 0x1a64), (0xaa7b, 0xaa7b), (0xaa7d, 0xaa7d), (0x11720, 0x11721)]

-- Every 28th syllable has no final consonant.
def openSyllables : CharSet := ofCodes ((List.range 399).map fun i => 0xac00 + 28 * i)

def closedSyllables : CharSet := (CharSet.ofRanges [(0xac00, 0xd7a3)]).difference openSyllables

def grapheme? : String → Option CharSet
  | "cr" => some carriageReturns
  | "lf" => some lineFeeds
  | "control" | "cn" => some graphemeControl
  | "extend" | "ex" => some graphemeExtend
  | "zwj" => some joiners
  | "regionalindicator" | "ri" => some regionalIndicators
  | "prepend" | "pp" => some graphemePrepend
  | "spacingmark" | "sm" => some graphemeSpacingMark
  | "l" => some (.ofRanges [(0x1100, 0x115f), (0xa960, 0xa97c)])
  | "v" => some (.ofRanges [(0x1160, 0x11a7), (0xd7b0, 0xd7c6), (0x16d63, 0x16d63),
    (0x16d67, 0x16d6a)])
  | "t" => some (.ofRanges [(0x11a8, 0x11ff), (0xd7cb, 0xd7fb)])
  | "lv" => some openSyllables
  | "lvt" => some closedSyllables
  | _ => none

-- Words

def wordExtend : CharSet := marks.union skinTones

def katakana : CharSet :=
  (ofScript "katakana").union <| .ofRanges [(0x3031, 0x3035), (0x309b, 0x309c), (0x30a0, 0x30a0),
    (0x30fc, 0x30fc), (0xff70, 0xff70)]

def hebrewLetters : CharSet := (ofScript "hebrew").intersection (ofCategory .otherLetter)

-- Scripts of South East Asia, whose words are not told apart by their letters.
def unspaced : CharSet :=
  .ofRanges [(0xe01, 0xe3a), (0xe40, 0xe4e), (0xe81, 0xedf), (0x1000, 0x103f), (0x1050, 0x109f),
    (0x1780, 0x17dd), (0x1950, 0x19df), (0x1a20, 0x1aad), (0xa9e0, 0xa9fe), (0xaa60, 0xaadf),
    (0x11700, 0x11746)]

def wordLetters : CharSet :=
  let further := CharSet.ofRanges [(0x2c2, 0x2c5), (0x2d2, 0x2d7), (0x2de, 0x2df),
    (0x2e5, 0x2eb), (0x2ed, 0x2ed), (0x2ef, 0x2ff), (0x55a, 0x55c), (0x55e, 0x55e), (0x58a, 0x58a),
    (0x5f3, 0x5f3), (0x70f, 0x70f), (0xa708, 0xa716), (0xa720, 0xa721), (0xa789, 0xa78a),
    (0xab5b, 0xab5b)]
  ((CharSet.ofProperty .alphabetic).union further).difference <|
    unionAll [ofNamed "ideographic", katakana, unspaced, ofScript "hiragana", wordExtend,
      hebrewLetters]

def wordFormat : CharSet :=
  (ofCategory .format).difference <|
    unionAll [ofCodes [0x70f, 0x200b], wordExtend, joiners, numberSigns]

def wordSpaces : CharSet := (ofCategory .spaceSeparator).difference (ofCodes [0xa0, 0x2007, 0x202f])

def word? : String → Option CharSet
  | "cr" => some carriageReturns
  | "lf" => some lineFeeds
  | "newline" | "nl" => some (.ofRanges [(0xb, 0xc), (0x85, 0x85), (0x2028, 0x2029)])
  | "extend" => some wordExtend
  | "zwj" => some joiners
  | "format" | "fo" => some wordFormat
  | "regionalindicator" | "ri" => some regionalIndicators
  | "katakana" | "ka" => some katakana
  | "hebrewletter" | "hl" => some hebrewLetters
  | "aletter" | "le" => some wordLetters
  | "singlequote" | "sq" => some (ofCodes [0x27])
  | "doublequote" | "dq" => some (ofCodes [0x22])
  | "midnumlet" | "mb" => some (ofCodes [0x2e, 0x2018, 0x2019, 0x2024, 0xfe52, 0xff07, 0xff0e])
  | "midletter" | "ml" =>
    some (ofCodes [0x3a, 0xb7, 0x387, 0x55f, 0x5f4, 0x2027, 0xfe13, 0xfe55, 0xff1a])
  | "midnum" | "mn" =>
    some (ofCodes [0x2c, 0x3b, 0x37e, 0x589, 0x60c, 0x60d, 0x66c, 0x7f8, 0x2044, 0xfe50, 0xfe54,
      0xff0c, 0xff1b])
  | "numeric" | "nu" => some numeric
  | "extendnumlet" | "ex" => some ((ofCategory .connectorPunctuation).union (ofCodes [0x202f]))
  | "wsegspace" => some wordSpaces
  | _ => none

-- Sentences

def separators : CharSet := ofCodes [0x85, 0x2028, 0x2029]

def sentenceExtend : CharSet := marks.union joiners

def sentenceSpaces : CharSet :=
  (CharSet.ofRanges blankRanges).difference <| unionAll [carriageReturns, lineFeeds, separators]

def sentenceNumeric : CharSet := numeric.union (ofCodes [0x66c])

def sentenceFormat : CharSet :=
  (ofCategory .format).difference (sentenceExtend.union numberSigns)

-- Where a script uses two cases in titles alone, its letters have none here.
def sentenceLower : CharSet :=
  (CharSet.ofProperty .lowercase).difference <|
    sentenceExtend.union (.ofRanges [(0x10d0, 0x10fa), (0x10fd, 0x10ff)])

def sentenceUpper : CharSet :=
  ((ofCategory .titlecaseLetter).union (.ofProperty .uppercase)).difference <|
    .ofRanges [(0x1c90, 0x1cba), (0x1cbd, 0x1cbf)]

def otherLetters : CharSet :=
  ((CharSet.ofProperty .alphabetic).union (ofCodes [0x5f3])).difference <|
    unionAll [sentenceLower, sentenceUpper, sentenceExtend]

-- Stops that may end an abbreviation.
def fullStops : CharSet := ofCodes [0x2e, 0x2024, 0xfe52, 0xff0e]

def sentenceEnds : CharSet := (ofNamed "sentenceterminal").difference fullStops

def closing : CharSet :=
  let brackets := CharSet.ofCategories fun category =>
    category == .openPunctuation || category == .closePunctuation ||
      category == .initialPunctuation || category == .finalPunctuation
  let quotes := CharSet.ofRanges [(0x22, 0x22), (0x27, 0x27), (0x275b, 0x2760), (0x2e00, 0x2e01),
    (0x2e06, 0x2e08), (0x2e0b, 0x2e0b), (0x1f676, 0x1f678)]
  (brackets.union quotes).difference (fullStops.union sentenceEnds)

def sentence? : String → Option CharSet
  | "cr" => some carriageReturns
  | "lf" => some lineFeeds
  | "sep" | "se" => some separators
  | "extend" | "ex" => some sentenceExtend
  | "format" | "fo" => some sentenceFormat
  | "sp" => some sentenceSpaces
  | "lower" | "lo" => some sentenceLower
  | "upper" | "up" => some sentenceUpper
  | "oletter" | "le" => some otherLetters
  | "numeric" | "nu" => some sentenceNumeric
  | "aterm" | "at" => some fullStops
  | "sterm" | "st" => some sentenceEnds
  | "close" | "cl" => some closing
  | "scontinue" | "sc" =>
    some (.ofRanges [(0x2c, 0x2d), (0x3a, 0x3b), (0x37e, 0x37e), (0x55d, 0x55d), (0x60c, 0x60d),
      (0x7f8, 0x7f8), (0x1802, 0x1802), (0x1808, 0x1808), (0x2013, 0x2014), (0x3001, 0x3001),
      (0xfe10, 0xfe11), (0xfe13, 0xfe14), (0xfe31, 0xfe32), (0xfe50, 0xfe51), (0xfe54, 0xfe55),
      (0xfe58, 0xfe58), (0xfe63, 0xfe63), (0xff0c, 0xff0d), (0xff1a, 0xff1b), (0xff64, 0xff64)])
  | _ => none

end Rulebook.Unicode.Boundary
