import Rulebook.Syntax.Token

/-!
From text to tokens. Every character belongs to exactly one token, and each token takes at least
one character.
-/

namespace Rulebook.Syntax

abbrev Scan := Option (Token × List Char)

def isInlineSpace (c : Char) : Bool :=
  Unicode.isBlank c && c != '\n' && c != '\r'

def scanWhitespace (cs : List Char) : Scan :=
  match cs.takeWhile isInlineSpace with
  | [] => none
  | spaces => some (.whitespace (String.ofList spaces), cs.dropWhile isInlineSpace)

def scanNewline : List Char → Scan
  | '\n' :: rest => some (.newline, rest)
  | '\r' :: '\n' :: rest => some (.newline, rest)
  | _ => none

-- The characters before the first `*/`, and those after it.
def untilCommentEnd : List Char → Option (List Char × List Char)
  | '*' :: '/' :: rest => some ([], rest)
  | c :: rest => (untilCommentEnd rest).map fun (content, after) => (c :: content, after)
  | [] => none

def commentContent (cs : List Char) : String :=
  Text.trim (String.ofList cs)

def isLineEnd (c : Char) : Bool :=
  c == '\n' || c == '\r'

-- A line comment does not end at a carriage return that stands alone.
def scanComment : List Char → Scan
  | '/' :: '*' :: rest =>
    (untilCommentEnd rest).map fun (content, after) => (.blockComment (commentContent content), after)
  | '/' :: '/' :: rest =>
    let content := rest.takeWhile (!isLineEnd ·)
    let comment := some (.lineComment (commentContent content), rest.dropWhile (!isLineEnd ·))
    match rest.dropWhile (!isLineEnd ·) with
    | '\r' :: '\n' :: _ => comment
    | '\r' :: _ => none
    | _ => comment
  | _ => none

def unescape? : Char → Option Char
  | '\\' => some '\\'
  | '"' => some '"'
  | 'n' => some '\n'
  | 't' => some '\t'
  | 'r' => some '\r'
  | _ => none

-- The characters up to the closing quote, decoded, and those after it.
def stringBody : List Char → Option (List Char × List Char)
  | [] => none
  | '"' :: rest => some ([], rest)
  | ['\\'] => none
  | '\\' :: c :: rest => do
    let decoded ← unescape? c
    let (body, after) ← stringBody rest
    some (decoded :: body, after)
  | c :: rest => (stringBody rest).map fun (body, after) => (c :: body, after)

def scanString : List Char → Scan
  | '"' :: rest => (stringBody rest).map fun (body, after) => (.string (String.ofList body), after)
  | _ => none

-- A point belongs to a number only between digits.
def scanNumber (cs : List Char) : Scan :=
  let whole := cs.takeWhile Char.isDigit
  let after := cs.dropWhile Char.isDigit
  if whole.isEmpty then none
  else
    match after with
    | '.' :: c :: rest =>
      if c.isDigit then
        let fraction := (c :: rest).takeWhile Char.isDigit
        some (.number (Number.ofDigits whole fraction), (c :: rest).dropWhile Char.isDigit)
      else some (.number (Number.ofDigits whole []), after)
    | _ => some (.number (Number.ofDigits whole []), after)

-- The longer operator wins.
def scanOperator : List Char → Scan
  | '.' :: '.' :: rest => some (.operator .range, rest)
  | '!' :: '=' :: rest => some (.operator .notEqual, rest)
  | '>' :: '=' :: rest => some (.operator .greaterEqual, rest)
  | '<' :: '=' :: rest => some (.operator .lessEqual, rest)
  | '*' :: '*' :: rest => some (.operator .power, rest)
  | '.' :: rest => some (.operator .dot, rest)
  | '=' :: rest => some (.operator .equal, rest)
  | '>' :: rest => some (.operator .greater, rest)
  | '<' :: rest => some (.operator .less, rest)
  | '+' :: rest => some (.operator .plus, rest)
  | '-' :: rest => some (.operator .minus, rest)
  | '*' :: rest => some (.operator .times, rest)
  | '/' :: rest => some (.operator .divide, rest)
  | '%' :: rest => some (.operator .modulo, rest)
  | _ => none

def scanDelimiter : List Char → Scan
  | '\x7b' :: rest => some (.delimiter .openBrace, rest)
  | '\x7d' :: rest => some (.delimiter .closeBrace, rest)
  | '(' :: rest => some (.delimiter .openParen, rest)
  | ')' :: rest => some (.delimiter .closeParen, rest)
  | '[' :: rest => some (.delimiter .openBracket, rest)
  | ']' :: rest => some (.delimiter .closeBracket, rest)
  | ',' :: rest => some (.delimiter .comma, rest)
  | ':' :: rest => some (.delimiter .colon, rest)
  | _ => none

-- The name under which a cell sees the value of its input.
def inputName : String := "?"

def scanInputName : List Char → Scan
  | '?' :: rest => some (.identifier inputName, rest)
  | _ => none

def startsName (c : Char) : Bool :=
  Unicode.isAlphabetic c || c == '_'

def continuesName (c : Char) : Bool :=
  Unicode.isAlphanumeric c || c == '_'

-- A keyword is a whole name.
def nameToken (name : String) : Token :=
  match Keyword.ofText? name with
  | some k => .keyword k
  | none => .identifier name

def scanName : List Char → Scan
  | c :: rest =>
    if startsName c then
      some (nameToken (String.ofList (c :: rest.takeWhile continuesName)),
        rest.dropWhile continuesName)
    else none
  | [] => none

-- Comments come before the operator `/`.
def scan (cs : List Char) : Scan :=
  (scanWhitespace cs).or <| (scanNewline cs).or <| (scanComment cs).or <| (scanString cs).or <|
    (scanNumber cs).or <| (scanOperator cs).or <| (scanDelimiter cs).or <|
      (scanInputName cs).or (scanName cs)

section Progress

variable {cs rest : List Char} {t : Token}

theorem length_dropWhile_le (p : Char → Bool) (cs : List Char) :
    (cs.dropWhile p).length ≤ cs.length := by
  induction cs with
  | nil => simp
  | cons c cs ih => simp only [List.dropWhile]; split <;> simp only [List.length_cons] <;> omega

theorem length_dropWhile_lt {p : Char → Bool} {cs : List Char} (h : cs.takeWhile p ≠ []) :
    (cs.dropWhile p).length < cs.length := by
  cases cs with
  | nil => simp at h
  | cons c cs =>
    have := length_dropWhile_le p cs
    cases hc : p c with
    | false => simp [List.takeWhile, hc] at h
    | true => simp only [List.dropWhile, hc, List.length_cons]; omega

theorem scanWhitespace_lt (h : scanWhitespace cs = some (t, rest)) : rest.length < cs.length := by
  simp only [scanWhitespace] at h
  split at h
  · simp at h
  · rename_i hs
    cases h
    exact length_dropWhile_lt hs

theorem scanNewline_lt (h : scanNewline cs = some (t, rest)) : rest.length < cs.length := by
  unfold scanNewline at h
  split at h <;> cases h <;> simp only [List.length_cons] <;> omega

theorem untilCommentEnd_lt {content : List Char} (h : untilCommentEnd cs = some (content, rest)) :
    rest.length < cs.length := by
  induction cs using untilCommentEnd.induct generalizing content rest with
  | case1 after => simp only [untilCommentEnd] at h; cases h; simp only [List.length_cons]; omega
  | case2 c cs hne ih =>
    rw [untilCommentEnd] at h
    · obtain ⟨⟨content', after⟩, h', e⟩ := Option.map_eq_some_iff.1 h
      cases e
      have := ih h'
      simp only [List.length_cons]; omega
    · exact hne
  | case3 => simp [untilCommentEnd] at h

theorem scanComment_lt (h : scanComment cs = some (t, rest)) : rest.length < cs.length := by
  unfold scanComment at h
  split at h
  · obtain ⟨⟨content, after⟩, h', e⟩ := Option.map_eq_some_iff.1 h
    cases e
    have := untilCommentEnd_lt h'
    simp only [List.length_cons]; omega
  · rename_i body
    have := length_dropWhile_le (!isLineEnd ·) body
    simp only at h
    split at h <;> first | (cases h; simp only [List.length_cons]; omega) | simp at h
  · simp at h

theorem stringBody_lt {body : List Char} (h : stringBody cs = some (body, rest)) :
    rest.length < cs.length := by
  induction cs using stringBody.induct generalizing body rest with
  | case1 => simp [stringBody] at h
  | case2 => simp only [stringBody] at h; cases h; simp
  | case3 => simp [stringBody] at h
  | case4 c cs ih =>
    simp only [stringBody, Option.bind_eq_bind, Option.bind_eq_some_iff] at h
    obtain ⟨d, -, ⟨body', after⟩, h', e⟩ := h
    cases e
    have := ih h'
    simp only [List.length_cons]; omega
  | case5 c cs h₁ h₂ h₃ ih =>
    rw [stringBody] at h
    · obtain ⟨⟨body', after⟩, h', e⟩ := Option.map_eq_some_iff.1 h
      cases e
      have := ih h'
      simp only [List.length_cons]; omega
    all_goals assumption

theorem scanString_lt (h : scanString cs = some (t, rest)) : rest.length < cs.length := by
  unfold scanString at h
  split at h
  · obtain ⟨⟨body, after⟩, h', e⟩ := Option.map_eq_some_iff.1 h
    cases e
    have := stringBody_lt h'
    simp only [List.length_cons]; omega
  · simp at h

theorem scanNumber_lt (h : scanNumber cs = some (t, rest)) : rest.length < cs.length := by
  simp only [scanNumber] at h
  split at h
  · simp at h
  · rename_i hw
    have hd : (cs.dropWhile Char.isDigit).length < cs.length :=
      length_dropWhile_lt (by simpa using hw)
    split at h
    · rename_i c after he
      have hf := length_dropWhile_le Char.isDigit (c :: after)
      have ha := hd
      rw [he] at ha
      simp only [List.length_cons] at ha hf
      split at h <;> cases h <;> omega
    · cases h; exact hd

theorem scanOperator_lt (h : scanOperator cs = some (t, rest)) : rest.length < cs.length := by
  unfold scanOperator at h
  split at h <;> cases h <;> simp only [List.length_cons] <;> omega

theorem scanDelimiter_lt (h : scanDelimiter cs = some (t, rest)) : rest.length < cs.length := by
  unfold scanDelimiter at h
  split at h <;> cases h <;> simp only [List.length_cons] <;> omega

theorem scanInputName_lt (h : scanInputName cs = some (t, rest)) : rest.length < cs.length := by
  unfold scanInputName at h
  split at h <;> cases h
  simp

theorem scanName_lt (h : scanName cs = some (t, rest)) : rest.length < cs.length := by
  unfold scanName at h
  split at h
  · rename_i c cs
    have := length_dropWhile_le continuesName cs
    split at h
    · cases h; simp only [List.length_cons]; omega
    · simp at h
  · simp at h

theorem scan_lt (h : scan cs = some (t, rest)) : rest.length < cs.length := by
  simp only [scan, Option.or_eq_some_iff] at h
  rcases h with h | ⟨-, h | ⟨-, h | ⟨-, h | ⟨-, h | ⟨-, h | ⟨-, h | ⟨-, h | ⟨-, h⟩⟩⟩⟩⟩⟩⟩⟩
  · exact scanWhitespace_lt h
  · exact scanNewline_lt h
  · exact scanComment_lt h
  · exact scanString_lt h
  · exact scanNumber_lt h
  · exact scanOperator_lt h
  · exact scanDelimiter_lt h
  · exact scanInputName_lt h
  · exact scanName_lt h

end Progress

-- How much of a text an error shows.
def fragmentLength : Nat := 20

-- No token starts at the place; `found` is the text there, cut short.
structure LexError where
  found : String
  place : Place
  deriving DecidableEq

-- The stretch of one byte at the place.
def LexError.spanText (e : LexError) : String :=
  "line: " ++ toString e.place.line ++ ", column: " ++ toString e.place.column ++
    ", start: " ++ toString e.place.offset ++ ", end: " ++ toString (e.place.offset + 1)

def lexemesFrom (place : Place) (cs : List Char) : Except LexError (List Lexeme) :=
  match cs with
  | [] => .ok []
  | c :: tail =>
    match _h : scan (c :: tail) with
    | none => .error ⟨Text.firstChars fragmentLength (c :: tail), place⟩
    | some (token, rest) =>
      let after := place.advance ((c :: tail).take ((c :: tail).length - rest.length))
      (lexemesFrom after rest).map (⟨token, place, after.offset⟩ :: ·)
termination_by cs.length
decreasing_by exact scan_lt _h

def lexemes (text : String) : Except LexError (List Lexeme) :=
  lexemesFrom .start text.toList

end Rulebook.Syntax
