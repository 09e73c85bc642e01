import Rulebook.Proofs.Number.Digits
import Rulebook.Proofs.Syntax.Canonical
import Rulebook.Proofs.Syntax.Tiling
import Rulebook.Proofs.Unicode.Blank
import Rulebook.Syntax.ParseError

/-!
Texts of written tokens. The lexer gives lexical tokens only, and it reads a token as itself where a
blank or the end of the text keeps it apart from what follows.
-/

namespace Rulebook.Syntax

variable {c : Char} {cs piece rest : List Char} {t : Token} {ts : List Token} {place : Place}

theorem not_isInlineSpace_of_startsName (h : startsName c = true) : isInlineSpace c = false := by
  rw [isInlineSpace, Bool.and_eq_false_iff, Bool.and_eq_false_iff]
  refine .inl (.inl (Bool.eq_false_iff.2 fun hblank => ?_))
  rw [startsName, Unicode.not_isAlphabetic_of_isBlank hblank, Bool.false_or, beq_iff_eq] at h
  subst h
  exact absurd hblank (by decide)

theorem isWord_cons_iff :
    isWord (c :: cs) = true ↔ startsName c = true ∧ ∀ d ∈ cs, continuesName d = true := by
  rw [isWord, Bool.and_eq_true, Bool.and_eq_true, Bool.not_eq_true', List.all_eq_true]
  exact and_congr_left' (and_iff_left_of_imp not_isInlineSpace_of_startsName)

theorem isLexical_nameToken (h : isWord cs = true) :
    (nameToken (String.ofList cs)).isLexical = true := by
  rw [nameToken]
  split
  case h_1 => rfl
  case h_2 hnone => simp [Token.isLexical, isName, h, hnone]

theorem isLexical_ofDigits (whole fraction : List Char) :
    (Token.number (Number.ofDigits whole fraction)).isLexical = true := by
  rw [Token.isLexical, Number.isNegative_ofDigits, Number.isUndefined_ofDigits]
  rfl

theorem Spells.isLexical (h : Spells t piece) (ht : t.isTrivia = false) : t.isLexical = true := by
  cases h with
  | whitespace | lineFeed | carriageReturn | blockComment | lineComment => cases ht
  | string | operator | delimiter => rfl
  | whole | decimal => exact isLexical_ofDigits ..
  | inputName => decide
  | name hstart hcs => exact isLexical_nameToken (isWord_cons_iff.2 ⟨hstart, hcs⟩)

theorem significant_of_isTrivia {lexeme : Lexeme} {all : List Lexeme}
    (h : lexeme.token.isTrivia = true) : significant (lexeme :: all) = significant all :=
  List.filter_cons_of_neg (by simp [h])

theorem significant_of_not_isTrivia {lexeme : Lexeme} {all : List Lexeme}
    (h : lexeme.token.isTrivia = false) : significant (lexeme :: all) = lexeme :: significant all :=
  List.filter_cons_of_pos (by simp [h])

-- What stands after a token keeps it apart from the next one: nothing at all, or a blank.
def Parted (rest : List Char) : Prop :=
  ∀ c ∈ rest.head?, c = ' ' ∨ c = '\t' ∨ c = '\n'

theorem parted_nil : Parted [] := by
  simp [Parted]

theorem parted_space : Parted (' ' :: rest) := by
  simp [Parted]

-- The first character is not one of those.
def Halts (p : Char → Bool) (cs : List Char) : Prop :=
  ∀ c ∈ cs.head?, p c = false

theorem Halts.split {p : Char → Bool} (h : Halts p rest) (hcs : ∀ c ∈ cs, p c = true) :
    (cs ++ rest).takeWhile p = cs ∧ (cs ++ rest).dropWhile p = rest := by
  rw [List.takeWhile_append_of_pos hcs, List.dropWhile_append_of_pos hcs]
  cases rest with
  | nil => exact ⟨List.append_nil cs, rfl⟩
  | cons c rest => simp [h c rfl]

theorem Parted.halts (h : Parted rest) {p : Char → Bool}
    (hblank : p ' ' = false ∧ p '\t' = false ∧ p '\n' = false) : Halts p rest := by
  intro c hc
  obtain rfl | rfl | rfl := h c hc
  · exact hblank.1
  · exact hblank.2.1
  · exact hblank.2.2

-- No point with a digit behind it.
def LacksFraction : List Char → Prop
  | '.' :: c :: _ => c.isDigit = false
  | _ => True

theorem Parted.lacksFraction (h : Parted rest) : LacksFraction rest := by
  unfold LacksFraction
  split
  · obtain h | h | h := h _ rfl <;> cases h
  · trivial

-- The characters with which tokens start, but for blanks and those of numbers and names.
def signs : List Char :=
  ['\n', '\r', '/', '"', '.', '!', '>', '<', '*', '=', '+', '-', '%', '\x7b', '\x7d', '(', ')', '[',
   ']', ',', ':', '?']

theorem scan_of_not_mem_signs (h : c ∉ signs) (hspace : isInlineSpace c = false) :
    scan (c :: cs) = (scanNumber (c :: cs)).or (scanName (c :: cs)) := by
  have hnewline : scanNewline (c :: cs) = none := by
    rw [scanNewline.eq_def]
    split <;> first | rfl | (rename_i heq; cases heq; exact absurd (by decide) h)
  have hcomment : scanComment (c :: cs) = none := by
    rw [scanComment.eq_def]
    split <;> first | rfl | (rename_i heq; cases heq; exact absurd (by decide) h)
  have hstring : scanString (c :: cs) = none := by
    rw [scanString.eq_def]
    split <;> first | rfl | (rename_i heq; cases heq; exact absurd (by decide) h)
  have hoperator : scanOperator (c :: cs) = none := by
    rw [scanOperator.eq_def]
    split <;> first | rfl | (rename_i heq; cases heq; exact absurd (by decide) h)
  have hdelimiter : scanDelimiter (c :: cs) = none := by
    rw [scanDelimiter.eq_def]
    split <;> first | rfl | (rename_i heq; cases heq; exact absurd (by decide) h)
  have hinput : scanInputName (c :: cs) = none := by
    rw [scanInputName.eq_def]
    split <;> first | rfl | (rename_i heq; cases heq; exact absurd (by decide) h)
  rw [scan, scanWhitespace_eq_none_iff.2 hspace, hnewline, hcomment, hstring, hoperator,
    hdelimiter, hinput]
  simp only [Option.none_or]

theorem exists_of_isDigit (h : c.isDigit = true) : ∃ k ≤ 9, c = Char.ofNat (48 + k) := by
  rw [Char.isDigit_iff_toNat] at h
  change 48 ≤ c.toNat ∧ c.toNat ≤ 57 at h
  have hc : 48 + (c.toNat - 48) = c.toNat := by omega
  exact ⟨c.toNat - 48, by omega, by rw [hc, Char.ofNat_toNat]⟩

theorem scan_of_startsName (h : startsName c = true) : scan (c :: cs) = scanName (c :: cs) := by
  have hsign : c ∉ signs := by
    have hsigns : signs.all (!startsName ·) = true := by decide
    exact fun hc => absurd (List.all_eq_true.1 hsigns c hc) (by simp [h])
  have hdigits : ∀ k ≤ 9, startsName (Char.ofNat (48 + k)) = false := by decide
  have hdigit : c.isDigit = false := by
    rw [Bool.eq_false_iff]
    intro hc
    obtain ⟨k, hk, rfl⟩ := exists_of_isDigit hc
    cases h.symm.trans (hdigits k hk)
  have hnumber : scanNumber (c :: cs) = none := by simp [scanNumber, hdigit]
  rw [scan_of_not_mem_signs hsign (not_isInlineSpace_of_startsName h), hnumber, Option.none_or]

theorem scan_of_isDigit (h : c.isDigit = true) : scan (c :: cs) = scanNumber (c :: cs) := by
  have hsign : c ∉ signs := by
    have hsigns : signs.all (!·.isDigit) = true := by decide
    exact fun hc => absurd (List.all_eq_true.1 hsigns c hc) (by simp [h])
  have hspace : isInlineSpace c = false := by
    have hdigits : ∀ k ≤ 9, isInlineSpace (Char.ofNat (48 + k)) = false := by decide
    obtain ⟨k, hk, rfl⟩ := exists_of_isDigit h
    exact hdigits k hk
  have hsome : (scanNumber (c :: cs)).isSome = true := isSome_scanNumber h
  obtain ⟨scanned, hnumber⟩ := Option.isSome_iff_exists.1 hsome
  rw [scan_of_not_mem_signs hsign hspace, hnumber, Option.some_or]

theorem scanNumber_whole {digits : List Char} (hne : digits ≠ [])
    (h : ∀ c ∈ digits, c.isDigit = true) (hrest : Halts Char.isDigit rest)
    (hfraction : LacksFraction rest) :
    scanNumber (digits ++ rest) = some (.number (Number.ofDigits digits []), rest) := by
  obtain ⟨htake, hdrop⟩ := hrest.split h
  simp only [scanNumber, htake, hdrop]
  rw [if_neg (by simpa using hne)]
  split
  case h_1 => rw [if_neg (by simpa [LacksFraction] using hfraction)]
  case h_2 => rfl

theorem scanNumber_decimal {whole fraction : List Char} (hwhole : whole ≠ [])
    (hfraction : fraction ≠ []) (h : ∀ c ∈ whole ++ fraction, c.isDigit = true)
    (hrest : Halts Char.isDigit rest) : scanNumber (whole ++ '.' :: (fraction ++ rest)) =
      some (.number (Number.ofDigits whole fraction), rest) := by
  rw [List.forall_mem_append] at h
  obtain ⟨c, cs, rfl⟩ := List.exists_cons_of_ne_nil hfraction
  obtain ⟨htake, hdrop⟩ := hrest.split h.2
  have hpoint : Halts Char.isDigit ('.' :: c :: (cs ++ rest)) := fun d hd => by cases hd; rfl
  obtain ⟨hwholeTake, hwholeDrop⟩ := hpoint.split h.1
  simp only [scanNumber, List.cons_append, hwholeTake, hwholeDrop]
  rw [if_neg (by simpa using hwhole), if_pos (h.2 c List.mem_cons_self), ← List.cons_append,
    htake, hdrop]

theorem scan_string {body cs : List Char} (h : Encodes body cs) (rest : List Char) :
    scan ('"' :: (cs ++ ['"']) ++ rest) = some (.string (String.ofList body), rest) := by
  have hspace : scanWhitespace ('"' :: (cs ++ '"' :: rest)) = none :=
    scanWhitespace_eq_none_iff.2 (by decide)
  have hstring : scanString ('"' :: (cs ++ '"' :: rest)) =
      some (.string (String.ofList body), rest) := by
    rw [scanString, stringBody_of_encodes h]
    rfl
  rw [List.cons_append, List.append_assoc, List.singleton_append, scan, hspace, hstring]
  rfl

theorem scan_name (hc : startsName c = true) (hcs : ∀ d ∈ cs, continuesName d = true)
    (hrest : Halts continuesName rest) :
    scan (c :: cs ++ rest) = some (nameToken (String.ofList (c :: cs)), rest) := by
  obtain ⟨htake, hdrop⟩ := hrest.split hcs
  rw [List.cons_append, scan_of_startsName hc, scanName, if_pos hc, htake, hdrop]

-- A token that is kept apart from what follows is read as itself.
theorem Spells.scan_append (h : Spells t piece) (ht : t.isTrivia = false) (hrest : Parted rest) :
    scan (piece ++ rest) = some (t, rest) := by
  cases h with
  | whitespace | lineFeed | carriageReturn | blockComment | lineComment => cases ht
  | string hbody => exact scan_string hbody rest
  | whole hne hdigits =>
    have hscan := scanNumber_whole hne hdigits (hrest.halts (by decide)) hrest.lacksFraction
    obtain ⟨c, cs, rfl⟩ := List.exists_cons_of_ne_nil hne
    rw [← hscan]
    exact scan_of_isDigit (hdigits c List.mem_cons_self)
  | decimal hwhole hfraction hdigits =>
    have hscan := scanNumber_decimal hwhole hfraction hdigits (hrest.halts (by decide))
    obtain ⟨c, cs, rfl⟩ := List.exists_cons_of_ne_nil hwhole
    rw [← hscan, List.append_assoc]
    exact scan_of_isDigit (hdigits c List.mem_cons_self)
  | operator o =>
    cases rest with
    | nil => cases o <;> rfl
    | cons c rest => obtain rfl | rfl | rfl := hrest c rfl <;> cases o <;> rfl
  | delimiter d => cases d <;> rfl
  | inputName => rfl
  | name hstart hcs => exact scan_name hstart hcs (hrest.halts (by decide))

theorem takeWhile_isInlineSpace_of_scan (h : scan cs = some (t, rest)) (ht : t.isTrivia = false) :
    cs.takeWhile isInlineSpace = [] := by
  cases hspaces : cs.takeWhile isInlineSpace with
  | nil => rfl
  | cons c spaces =>
    rw [scan, scanWhitespace, hspaces] at h
    cases h
    cases ht

theorem scan_blank (h : rest.takeWhile isInlineSpace = []) :
    scan (' ' :: rest) = some (.whitespace " ", rest) := by
  have htake : (' ' :: rest).takeWhile isInlineSpace = [' '] := congrArg (' ' :: ·) h
  have hdrop : (' ' :: rest).dropWhile isInlineSpace = rest := by
    have hrest := List.takeWhile_append_dropWhile (p := isInlineSpace) (l := rest)
    rw [h] at hrest
    exact hrest
  rw [scan, scanWhitespace, htake, hdrop]
  rfl

-- The tokens of a text, without blanks and comments.
def textTokens (text : String) : Except LexError (List Token) :=
  (lexemes text).map fun all => (significant all).map (·.token)

theorem isLexical_of_textTokens {text : String} (h : textTokens text = .ok ts) :
    ∀ t ∈ ts, t.isLexical = true := by
  rw [textTokens] at h
  cases hall : lexemes text with
  | error => rw [hall] at h; cases h
  | ok all =>
    rw [hall] at h
    cases h
    refine List.forall_mem_map.2 fun lexeme hlexeme => ?_
    obtain ⟨hmem, ht⟩ := List.mem_filter.1 hlexeme
    obtain ⟨_, _, _, -, hspells, -⟩ := (tiling_of_lexemes hall).cut lexeme hmem
    exact hspells.isLexical (by simpa using ht)

theorem exists_intercalate_eq (piece : List Char) (pieces : List (List Char)) :
    ∃ rest, [' '].intercalate (piece :: pieces) = piece ++ rest ∧ Parted rest := by
  cases pieces with
  | nil => exact ⟨[], by rw [List.intercalate_singleton, List.append_nil], parted_nil⟩
  | cons piece' pieces =>
    refine ⟨' ' :: [' '].intercalate (piece' :: pieces), ?_, parted_space⟩
    rw [List.intercalate_cons_cons, List.append_assoc]
    rfl

theorem exists_lexemesFrom {pieces : List (List Char)} (h : List.Forall₂ Spells ts pieces)
    (hts : ∀ t ∈ ts, t.isTrivia = false) (place : Place) :
    ∃ all, lexemesFrom place ([' '].intercalate pieces) = .ok all ∧
      (significant all).map (·.token) = ts := by
  induction h generalizing place with
  | nil => exact ⟨[], by rw [List.intercalate_nil, lexemesFrom], rfl⟩
  | @cons t piece ts pieces hspells h ih =>
    obtain ⟨ht, hts⟩ := List.forall_mem_cons.1 hts
    cases h with
    | nil =>
      have hscan := hspells.scan_append ht parted_nil
      rw [List.intercalate_singleton, ← List.append_nil piece, lexemesFrom_of_scan hscan,
        lexemesFrom]
      exact ⟨_, rfl, by rw [significant_of_not_isTrivia ht]; rfl⟩
    | @cons t' piece' ts pieces hspells' h =>
      obtain ⟨rest, hjoin, hrest⟩ := exists_intercalate_eq piece' pieces
      have hscan' := hspells'.scan_append (hts t' List.mem_cons_self) hrest
      have hscan : scan (piece ++ ' ' :: (piece' ++ rest)) = some (t, ' ' :: (piece' ++ rest)) :=
        hspells.scan_append ht parted_space
      have hspace := scan_blank
        (takeWhile_isInlineSpace_of_scan hscan' (hts t' List.mem_cons_self))
      rw [List.intercalate_cons_cons, List.append_assoc, hjoin, List.singleton_append,
        lexemesFrom_of_scan hscan, lexemesFrom_of_scan hspace]
      rw [hjoin] at ih
      obtain ⟨all, hall, htokens⟩ := ih hts (placeAfter (placeAfter place
        (piece ++ ' ' :: (piece' ++ rest)) (' ' :: (piece' ++ rest)))
        (' ' :: (piece' ++ rest)) (piece' ++ rest))
      rw [hall]
      refine ⟨_, rfl, ?_⟩
      rw [significant_of_not_isTrivia ht, significant_of_isTrivia rfl, List.map_cons, htokens]

-- Tokens that are written one after the other, with a blank between them, are read as they are.
theorem textTokens_intercalate {words : List String}
    (h : List.Forall₂ (fun t word => Spells t word.toList) ts words)
    (hts : ∀ t ∈ ts, t.isTrivia = false) : textTokens (" ".intercalate words) = .ok ts := by
  obtain ⟨all, hall, htokens⟩ := exists_lexemesFrom (List.forall₂_map_right_iff.2 h) hts .start
  rw [textTokens, lexemes, String.toList_intercalate, show " ".toList = [' '] from rfl, hall,
    ← htokens]
  rfl

end Rulebook.Syntax
