import Rulebook.Proofs.Syntax.ErrorPlaces
import Rulebook.Proofs.Syntax.Spelling

/-!
A text cut into the pieces that the lexer takes, each of them read with all that follows it at hand.
The grammar sees of a text what its pieces stand for, but for blanks and comments.
-/

namespace Rulebook.Syntax

abbrev Piece := Token × List Char

-- The tokens of a text from its start to its end, each with its characters.
inductive Cut : List Char → List Piece → Prop
  | nil : Cut [] []
  | cons {piece rest : List Char} {t : Token} {pieces : List Piece}
    (hscan : scan (piece ++ rest) = some (t, rest)) (h : Cut rest pieces) :
    Cut (piece ++ rest) ((t, piece) :: pieces)

-- The lexemes of these pieces in a text where `before` stands before them.
def lexemesOf : List Char → List Piece → List Lexeme
  | _, [] => []
  | before, (t, piece) :: pieces =>
    ⟨t, .counted before, String.utf8Len (before ++ piece)⟩ :: lexemesOf (before ++ piece) pieces

variable {cs rest before : List Char} {t : Token} {ts : List Token} {cut : List Piece}
  {all : List Lexeme} {text : String}

theorem Cut.eq_flatten (h : Cut cs cut) : cs = (cut.map (·.2)).flatten := by
  induction h with
  | nil => rfl
  | cons _ _ ih => rw [List.map_cons, List.flatten_cons, ← ih]

theorem Cut.spells (h : Cut cs cut) : ∀ p ∈ cut, Spells p.1 p.2 := by
  induction h with
  | nil => simp
  | cons hscan _ ih =>
    obtain ⟨piece, hcs, hspells⟩ := takes_of_scan hscan
    obtain rfl := List.append_cancel_right hcs
    exact List.forall_mem_cons.2 ⟨hspells, ih⟩

theorem Cut.eq_nil (h : Cut [] cut) : cut = [] := by
  generalize hcs : [] = cs at h
  cases h with
  | nil => rfl
  | cons hscan =>
    rw [← hcs] at hscan
    cases hscan

theorem Cut.exists_cons (h : Cut cs cut) (hscan : scan cs = some (t, rest)) :
    ∃ piece cut', cut = (t, piece) :: cut' ∧ cs = piece ++ rest ∧ Cut rest cut' := by
  cases h with
  | nil => cases hscan
  | cons hscan' h =>
    cases hscan.symm.trans hscan'
    exact ⟨_, _, rfl, rfl, h⟩

theorem Cut.lexemesFrom_eq (h : Cut cs cut) (before : List Char) :
    lexemesFrom (.counted before) cs = .ok (lexemesOf before cut) := by
  induction h generalizing before with
  | nil => rw [lexemesFrom, lexemesOf]
  | cons hscan _ ih =>
    rw [lexemesFrom_of_scan hscan, placeAfter_counted, ih]
    rfl

theorem exists_cut (h : lexemesFrom (.counted before) cs = .ok all) :
    ∃ cut, Cut cs cut ∧ all = lexemesOf before cut := by
  generalize hplace : Place.counted before = place at h
  induction place, cs using lexemesFrom.induct generalizing before all with
  | case1 place =>
    rw [lexemesFrom] at h
    cases h
    exact ⟨[], .nil, rfl⟩
  | case2 place c cs hscan =>
    rw [lexemesFrom_of_scan_eq_none (List.cons_ne_nil c cs) hscan] at h
    cases h
  | case3 place c cs t rest hscan =>
    rename_i ih
    obtain ⟨piece, hcs, -⟩ := takes_of_scan hscan
    have hnext : Place.counted (before ++ piece) = placeAfter place (c :: cs) rest := by
      rw [hcs, ← hplace, placeAfter_counted]
    rw [lexemesFrom_of_scan hscan] at h
    cases hall : lexemesFrom (placeAfter place (c :: cs) rest) rest with
    | error e => rw [hall] at h; cases h
    | ok others =>
      obtain ⟨cut, hcut, rfl⟩ := ih hnext hall
      rw [hall, ← hnext, ← hplace] at h
      cases h
      rw [hcs] at hscan ⊢
      exact ⟨(t, piece) :: cut, .cons hscan hcut, rfl⟩

theorem lexemes_eq_iff :
    lexemes text = .ok all ↔ ∃ cut, Cut text.toList cut ∧ all = lexemesOf [] cut := by
  constructor
  · intro h
    have hfrom : lexemesFrom (.counted []) text.toList = .ok all := h
    exact exists_cut hfrom
  · rintro ⟨cut, hcut, rfl⟩
    exact hcut.lexemesFrom_eq []

-- The characters of a lexeme.
def Lexeme.piece (text : String) (lexeme : Lexeme) : List Char :=
  let (_, after) := ParseError.splitAt lexeme.place.offset text.toList
  (ParseError.splitAt (lexeme.stop - lexeme.place.offset) after).1

-- The characters of all lexemes, one after the other.
def textPieces (text : String) : List (List Char) :=
  match lexemes text with
  | .ok all => all.map (·.piece text)
  | .error _ => []

theorem map_piece_lexemesOf (h : text.toList = before ++ (cut.map (·.2)).flatten) :
    (lexemesOf before cut).map (·.piece text) = cut.map (·.2) := by
  induction cut generalizing before with
  | nil => rfl
  | cons p cut ih =>
    obtain ⟨t, piece⟩ := p
    rw [List.map_cons, List.flatten_cons] at h
    have hpiece : Lexeme.piece text ⟨t, .counted before, String.utf8Len (before ++ piece)⟩ =
        piece := by
      have hstop : String.utf8Len (before ++ piece) - String.utf8Len before =
          String.utf8Len piece := by
        rw [String.utf8Len_append, Nat.add_sub_cancel_left]
      simp only [Lexeme.piece, Place.counted, h, ParseError.splitAt_append, hstop]
    rw [lexemesOf, List.map_cons, List.map_cons, hpiece, ih (by rw [h, List.append_assoc])]

theorem Cut.textPieces_eq (h : Cut text.toList cut) : textPieces text = cut.map (·.2) := by
  have hall : lexemes text = .ok (lexemesOf [] cut) := h.lexemesFrom_eq []
  rw [textPieces, hall]
  exact map_piece_lexemesOf h.eq_flatten

-- A text that the lexer takes is that of its pieces.
theorem flatten_textPieces (h : lexemes text = .ok all) :
    (textPieces text).flatten = text.toList := by
  obtain ⟨cut, hcut, -⟩ := lexemes_eq_iff.1 h
  rw [hcut.textPieces_eq, ← hcut.eq_flatten]

-- The tokens of the pieces, without blanks and comments.
def Piece.significant (cut : List Piece) : List Token :=
  (cut.map (·.1)).filter (!·.isTrivia)

def Lexes (cs : List Char) (ts : List Token) : Prop :=
  ∃ cut, Cut cs cut ∧ Piece.significant cut = ts

theorem map_token_lexemesOf (before : List Char) (cut : List Piece) :
    (lexemesOf before cut).map (·.token) = cut.map (·.1) := by
  induction cut generalizing before with
  | nil => rfl
  | cons p cut ih => rw [lexemesOf, List.map_cons, List.map_cons, ih]

theorem map_token_significant (before : List Char) (cut : List Piece) :
    (significant (lexemesOf before cut)).map (·.token) = Piece.significant cut := by
  rw [Piece.significant, ← map_token_lexemesOf before, List.filter_map]
  rfl

theorem textTokens_eq_ok_iff : textTokens text = .ok ts ↔ Lexes text.toList ts := by
  constructor
  · intro h
    rw [textTokens] at h
    cases hall : lexemes text with
    | error e => rw [hall] at h; cases h
    | ok all =>
      rw [hall] at h
      cases h
      obtain ⟨cut, hcut, rfl⟩ := lexemes_eq_iff.1 hall
      exact ⟨cut, hcut, (map_token_significant [] cut).symm⟩
  · rintro ⟨cut, hcut, rfl⟩
    have hall : lexemes text = .ok (lexemesOf [] cut) := hcut.lexemesFrom_eq []
    rw [textTokens, hall]
    exact congrArg Except.ok (map_token_significant [] cut)

theorem lexes_nil : Lexes [] [] :=
  ⟨[], .nil, rfl⟩

theorem Piece.significant_cons (t : Token) (piece : List Char) (cut : List Piece) :
    significant ((t, piece) :: cut) =
      if t.isTrivia then significant cut else t :: significant cut := by
  rw [significant, List.map_cons, List.filter_cons]
  cases t.isTrivia <;> rfl

theorem lexes_iff_of_scan (h : scan cs = some (t, rest)) :
    Lexes cs ts ↔ ∃ us, Lexes rest us ∧ ts = if t.isTrivia then us else t :: us := by
  constructor
  · rintro ⟨cut, hcut, rfl⟩
    obtain ⟨piece, cut, rfl, rfl, hrest⟩ := hcut.exists_cons h
    exact ⟨_, ⟨_, hrest, rfl⟩, Piece.significant_cons ..⟩
  · rintro ⟨us, ⟨cut, hcut, rfl⟩, rfl⟩
    obtain ⟨piece, rfl, -⟩ := takes_of_scan h
    exact ⟨_, .cons h hcut, Piece.significant_cons ..⟩

theorem lexes_iff_of_isTrivia (h : scan cs = some (t, rest)) (ht : t.isTrivia = true) :
    Lexes cs ts ↔ Lexes rest ts := by
  rw [lexes_iff_of_scan h]
  simp [ht]

theorem Lexes.cons (h : Lexes rest ts) (hscan : scan cs = some (t, rest))
    (ht : t.isTrivia = false) : Lexes cs (t :: ts) :=
  (lexes_iff_of_scan hscan).2 ⟨ts, h, by rw [ht]; rfl⟩

-- Blanks in front are skipped, however many.

theorem lexes_dropWhile :
    Lexes (cs.dropWhile isInlineSpace) ts ↔ Lexes cs ts := by
  cases hspaces : cs.takeWhile isInlineSpace with
  | nil =>
    have hcs := List.takeWhile_append_dropWhile (p := isInlineSpace) (l := cs)
    rw [hspaces, List.nil_append] at hcs
    rw [hcs]
  | cons c spaces =>
    have hscan : scan cs =
        some (.whitespace (String.ofList (c :: spaces)), cs.dropWhile isInlineSpace) := by
      rw [scan, scanWhitespace, hspaces]
      rfl
    exact (lexes_iff_of_isTrivia hscan rfl).symm

theorem lexes_inlineSpaces {spaces : List Char} (h : ∀ c ∈ spaces, isInlineSpace c = true) :
    Lexes (spaces ++ cs) ts ↔ Lexes cs ts := by
  rw [← lexes_dropWhile, List.dropWhile_append_of_pos h, lexes_dropWhile]

theorem lexes_blanks {blanks : List Char} (h : ∀ c ∈ blanks, isInlineSpace c = true ∨ c = '\n') :
    Lexes (blanks ++ cs) ts ↔ Lexes cs ts := by
  induction blanks with
  | nil => rfl
  | cons c blanks ih =>
    obtain ⟨hc, hblanks⟩ := List.forall_mem_cons.1 h
    rw [List.cons_append, ← ih hblanks]
    obtain hspace | rfl := hc
    · have hsingle : ∀ d ∈ [c], isInlineSpace d = true := List.forall_mem_singleton.2 hspace
      exact lexes_inlineSpaces hsingle
    · exact lexes_iff_of_isTrivia rfl rfl

-- What the grammar makes of a text depends on its significant tokens only.
theorem parseWith_eq_ok_iff {α : Type} {grammar : List Token → Except Failure α} {value : α} :
    parseWith grammar text = .ok value ↔
      ∃ ts, Lexes text.toList ts ∧ ts ≠ [] ∧ grammar ts = .ok value := by
  rw [parseWith]
  simp only [← textTokens_eq_ok_iff, textTokens]
  cases hall : lexemes text with
  | error e => simp [Except.map]
  | ok all =>
    have hempty : (significant all).isEmpty = true ↔ (significant all).map (·.token) = [] := by
      simp
    simp only [Except.map, Except.ok.injEq, exists_eq_left', ne_eq, ← hempty]
    split
    case isTrue hnone => simp [hnone]
    case isFalse hsome =>
      simp only [hsome]
      cases grammar ((significant all).map (·.token)) <;> simp [Except.mapError]

end Rulebook.Syntax
