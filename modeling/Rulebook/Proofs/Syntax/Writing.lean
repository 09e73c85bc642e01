import Rulebook.Proofs.Syntax.Spelling

/-!
The written forms of tokens. Every lexical token has one, so every list of lexical tokens is that of
a text; a list of tokens in their usual forms, with a blank between them, is read back as it is.
-/

namespace Rulebook.Syntax

variable {c : Char} {cs : List Char} {t : Token} {ts : List Token}

-- Between quotes these characters stand behind a backslash, line ends and tabs as letters.
def escape : Char → List Char
  | '\\' => ['\\', '\\']
  | '"' => ['\\', '"']
  | '\n' => ['\\', 'n']
  | '\t' => ['\\', 't']
  | '\r' => ['\\', 'r']
  | c => [c]

theorem encodes_escape (cs : List Char) : Encodes cs (cs.flatMap escape) := by
  induction cs with
  | nil => exact .nil
  | cons c cs ih =>
    rw [List.flatMap_cons, escape.eq_def]
    split
    case h_6 hescape hquote _ _ _ => exact .plain hquote hescape ih
    all_goals exact .escape rfl ih

theorem spells_nameToken (h : isWord cs = true) : Spells (nameToken (String.ofList cs)) cs := by
  cases cs with
  | nil => cases h
  | cons c cs =>
    obtain ⟨hstart, hcs⟩ := isWord_cons_iff.1 h
    exact .name hstart hcs

theorem spells_keyword (k : Keyword) : Spells (.keyword k) k.text.toList := by
  have hword : isWord k.text.toList = true := by cases k <;> decide
  have hspells := spells_nameToken hword
  rwa [nameToken, String.ofList_toList, Keyword.ofText?_text] at hspells

theorem spells_identifier {name : String} (h : isName name = true) :
    Spells (.identifier name) name.toList := by
  rw [isName, Bool.or_eq_true, beq_iff_eq, Bool.and_eq_true, Option.isNone_iff_eq_none] at h
  obtain rfl | ⟨hword, hnone⟩ := h
  · exact .inputName
  · have hspells := spells_nameToken hword
    rwa [nameToken, String.ofList_toList, hnone] at hspells

theorem spells_number (ds : Number.Digits) : Spells (.number ds.number) ds.written := by
  rw [Number.Digits.written, Number.Digits.number]
  split
  case isTrue hfraction =>
    rw [hfraction]
    exact .whole ds.nonempty fun c hc => ds.isDigit c (List.mem_append_left _ hc)
  case isFalse hfraction => exact .decimal ds.nonempty hfraction ds.isDigit

theorem spells_string (s : String) :
    Spells (.string s) ('"' :: (s.toList.flatMap escape ++ ['"'])) := by
  have hspells := Spells.string (encodes_escape s.toList)
  rwa [String.ofList_toList] at hspells

namespace Token

-- As `text`, but for strings.
def written : Token → String
  | string s => String.ofList ('"' :: (s.toList.flatMap escape ++ ['"']))
  | t => t.text

-- Names are no keywords, and numbers have digits and no sign.
def isPlain : Token → Bool
  | identifier name => isName name
  | number x => Number.isFinite x && !Number.isNegative x
  | t => !t.isTrivia

theorem not_isTrivia_of_isPlain (h : t.isPlain = true) : t.isTrivia = false := by
  cases t <;> first | rfl | cases h

theorem not_isTrivia_of_isLexical (h : t.isLexical = true) : t.isTrivia = false := by
  cases t <;> first | rfl | cases h

end Token

theorem spells_written (h : t.isPlain = true) : Spells t t.written.toList := by
  cases t with
  | keyword k => exact spells_keyword k
  | identifier name => exact spells_identifier h
  | operator o => exact .operator o
  | delimiter d => exact .delimiter d
  | number x =>
    rw [Token.isPlain, Bool.and_eq_true, Bool.not_eq_true'] at h
    obtain ⟨ds, hwritten, hnumber⟩ := Number.exists_digits_of_isFinite h.1 h.2
    have hspells := spells_number ds
    rwa [← hwritten, hnumber] at hspells
  | string s =>
    rw [Token.written, String.toList_ofList]
    exact spells_string s
  | whitespace | newline | lineComment | blockComment => cases h

theorem exists_spells (h : t.isLexical = true) : ∃ piece, Spells t piece := by
  cases t with
  | keyword k => exact ⟨_, spells_keyword k⟩
  | identifier name => exact ⟨_, spells_identifier h⟩
  | operator o => exact ⟨_, .operator o⟩
  | delimiter d => exact ⟨_, .delimiter d⟩
  | number x =>
    rw [Token.isLexical, Bool.and_eq_true, Bool.not_eq_true', Bool.not_eq_true'] at h
    obtain ⟨ds, rfl⟩ := Number.exists_digits_number_eq h.2 h.1
    exact ⟨_, spells_number ds⟩
  | string s => exact ⟨_, spells_string s⟩
  | whitespace | newline | lineComment | blockComment => cases h

theorem exists_textTokens_iff :
    (∃ text, textTokens text = .ok ts) ↔ ∀ t ∈ ts, t.isLexical = true := by
  constructor
  · rintro ⟨text, h⟩
    exact isLexical_of_textTokens h
  · intro h
    choose! piece hpiece using fun t (ht : t ∈ ts) => exists_spells (h t ht)
    have hspells : List.Forall₂ (fun t word => Spells t word.toList) ts
        (ts.map fun t => String.ofList (piece t)) := by
      rw [List.forall₂_map_right_iff, List.forall₂_same]
      intro t ht
      rw [String.toList_ofList]
      exact hpiece t ht
    exact ⟨_, textTokens_intercalate hspells fun t ht => Token.not_isTrivia_of_isLexical (h t ht)⟩

theorem textTokens_map_written (h : ∀ t ∈ ts, t.isPlain = true) :
    textTokens (" ".intercalate (ts.map Token.written)) = .ok ts :=
  textTokens_intercalate
    (List.forall₂_map_right_iff.2 (List.forall₂_same.2 fun t ht => spells_written (h t ht)))
    fun t ht => Token.not_isTrivia_of_isPlain (h t ht)

theorem textTokens_written (ts : List Token) :
    ((∀ t ∈ ts, t.isPlain = true) →
      textTokens (" ".intercalate (ts.map Token.written)) = .ok ts) ∧
      ∀ s : String, textTokens (Token.string s).written = .ok [.string s] := by
  refine ⟨textTokens_map_written, fun s => ?_⟩
  have hplain : ∀ t ∈ [Token.string s], t.isPlain = true := by simp [Token.isPlain, Token.isTrivia]
  have htokens := textTokens_map_written hplain
  rwa [List.map_singleton, String.intercalate_singleton] at htokens

theorem textTokens_written_conditional :
    textTokens "if x1 >= 0.1 then ? else \"a\\\\b\\n\"" = .ok [.keyword .if, .identifier "x1",
      .operator .greaterEqual, .number 0.1, .keyword .then, .identifier "?", .keyword .else,
      .string "a\\b\n"] := by
  have htokens := (textTokens_written [.keyword .if, .identifier "x1", .operator .greaterEqual,
    .number 0.1, .keyword .then, .identifier "?", .keyword .else, .string "a\\b\n"]).1
    (by decide +kernel)
  have htext : " ".intercalate ([.keyword .if, .identifier "x1", .operator .greaterEqual,
      .number 0.1, .keyword .then, .identifier "?", .keyword .else,
      .string "a\\b\n"].map Token.written) = "if x1 >= 0.1 then ? else \"a\\\\b\\n\"" := by
    decide +kernel
  rwa [htext] at htokens

end Rulebook.Syntax
