import Mathlib.Data.List.Chain
import Mathlib.Data.String.Basic
import Rulebook.Proofs.Syntax.Lexicon

/-!
Lexemes tile a text. The lexer goes over a text once, from token to token: its lexemes follow one
another without a gap, each stands at the place that counting the characters before it gives, and
where it stops before the end of the text no token can start.
-/

namespace Rulebook.Syntax

-- The place behind these characters of a text: the bytes and line ends among them are counted, and
-- the characters that follow the last line end.
def Place.counted (before : List Char) : Place where
  offset := String.utf8Len before
  line := before.count '\n' + 1
  column := (before.reverse.takeWhile (· != '\n')).length + 1

theorem Place.counted_concat (before : List Char) (c : Char) :
    counted (before ++ [c]) = (counted before).next c := by
  rw [next]
  split
  case isTrue hc => simp [counted, hc]
  case isFalse hc => simp [counted, hc]

theorem Place.counted_append (before cs : List Char) :
    counted (before ++ cs) = (counted before).advance cs := by
  induction cs generalizing before with
  | nil => rw [List.append_nil, advance, List.foldl_nil]
  | cons c cs ih =>
    rw [List.append_cons, ih, counted_concat]
    rfl

theorem Place.advance_start (cs : List Char) : start.advance cs = counted cs :=
  (counted_append [] cs).symm

variable {before cs rest : List Char} {t : Token} {all : List Lexeme} {place : Place}

-- The place after the characters of `cs` that stand before `rest`.
def placeAfter (place : Place) (cs rest : List Char) : Place :=
  place.advance (cs.take (cs.length - rest.length))

theorem placeAfter_counted (before piece rest : List Char) :
    placeAfter (.counted before) (piece ++ rest) rest = .counted (before ++ piece) := by
  rw [placeAfter, List.length_append, Nat.add_sub_cancel, List.take_left, Place.counted_append]

theorem lexemesFrom_of_scan (h : scan cs = some (t, rest)) :
    lexemesFrom place cs = (lexemesFrom (placeAfter place cs rest) rest).map
      (⟨t, place, (placeAfter place cs rest).offset⟩ :: ·) := by
  cases cs with
  | nil => cases h
  | cons c cs =>
    rw [lexemesFrom]
    split
    case h_1 h' => cases h.symm.trans h'
    case h_2 h' =>
      cases h.symm.trans h'
      rfl

theorem lexemesFrom_of_scan_eq_none (hcs : cs ≠ []) (h : scan cs = none) :
    lexemesFrom place cs = .error ⟨Text.firstChars fragmentLength cs, place⟩ := by
  cases cs with
  | nil => cases hcs rfl
  | cons c cs =>
    rw [lexemesFrom]
    split
    case h_1 => rfl
    case h_2 h' => cases h.symm.trans h'

-- The lexemes are those of `cs`, one after the other, in a text where `before` stands before `cs`.
inductive Tiling : List Char → List Char → List Lexeme → Prop
  | nil (before : List Char) : Tiling before [] []
  | cons {before piece rest : List Char} {t : Token} {all : List Lexeme} (hspells : Spells t piece)
    (h : Tiling (before ++ piece) rest all) :
    Tiling before (piece ++ rest) (⟨t, .counted before, String.utf8Len (before ++ piece)⟩ :: all)

-- What the lexer makes of the characters that follow `before`: lexemes up to the end of the text,
-- or up to where no token starts.
theorem lexemesFrom_counted (before cs : List Char) :
    ∃ front rest all, cs = front ++ rest ∧ Tiling before front all ∧
      (rest = [] ∧ lexemesFrom (.counted before) cs = .ok all ∨
        rest ≠ [] ∧ scan rest = none ∧ lexemesFrom (.counted before) cs =
          .error ⟨Text.firstChars fragmentLength rest, .counted (before ++ front)⟩) := by
  generalize hplace : Place.counted before = place
  induction place, cs using lexemesFrom.induct generalizing before with
  | case1 place => exact ⟨[], [], [], rfl, .nil before, .inl ⟨rfl, by rw [lexemesFrom]⟩⟩
  | case2 place c cs hscan =>
    refine ⟨[], c :: cs, [], rfl, .nil before, .inr ⟨List.cons_ne_nil c cs, hscan, ?_⟩⟩
    rw [lexemesFrom_of_scan_eq_none (List.cons_ne_nil c cs) hscan, List.append_nil, hplace]
  | case3 place c cs t after hscan next ih =>
    obtain ⟨piece, hcs, hspells⟩ := takes_of_scan hscan
    have hnext : placeAfter place (c :: cs) after = .counted (before ++ piece) := by
      rw [hcs, ← hplace, placeAfter_counted]
    obtain ⟨front, rest, all, rfl, htiling, h⟩ := ih (before ++ piece) hnext.symm
    rw [show next = .counted (before ++ piece) from hnext] at h
    rw [lexemesFrom_of_scan hscan, hnext, ← hplace]
    refine ⟨piece ++ front, rest, _, hcs.trans (List.append_assoc ..).symm,
      .cons hspells htiling, h.imp ?_ ?_⟩
    · rintro ⟨hrest, hall⟩
      exact ⟨hrest, by rw [hall]; rfl⟩
    · rintro ⟨hrest, hnone, herror⟩
      exact ⟨hrest, hnone, by rw [herror, List.append_assoc]; rfl⟩

theorem tiling_of_lexemes {text : String} (h : lexemes text = .ok all) :
    Tiling [] text.toList all := by
  obtain ⟨front, rest, all', htext, htiling, ⟨rfl, hall⟩ | ⟨-, -, herror⟩⟩ :=
    lexemesFrom_counted [] text.toList
  · cases h.symm.trans hall
    rwa [htext, List.append_nil]
  · cases h.symm.trans herror

theorem tiling_of_lexError {text : String} {e : LexError} (h : lexemes text = .error e) :
    ∃ before after all, text.toList = before ++ after ∧ after ≠ [] ∧ scan after = none ∧
      Tiling [] before all ∧ e = ⟨Text.firstChars fragmentLength after, .counted before⟩ := by
  obtain ⟨front, rest, all, htext, htiling, ⟨rfl, hall⟩ | ⟨hrest, hnone, herror⟩⟩ :=
    lexemesFrom_counted [] text.toList
  · cases h.symm.trans hall
  · cases h.symm.trans herror
    exact ⟨front, rest, all, htext, hrest, hnone, htiling, rfl⟩

namespace Tiling

theorem head (h : Tiling before cs all) :
    ∀ lexeme ∈ all.head?, lexeme.place = .counted before := by
  cases h <;> simp

theorem adjacent (h : Tiling before cs all) : all.IsChain (·.stop = ·.place.offset) := by
  induction h with
  | nil => exact .nil
  | cons _ h ih =>
    refine List.isChain_cons.2 ⟨fun lexeme hlexeme => ?_, ih⟩
    rw [h.head lexeme hlexeme]
    rfl

theorem last (h : Tiling before cs all) :
    ∀ lexeme ∈ all.getLast?, lexeme.stop = String.utf8Len (before ++ cs) := by
  induction h with
  | nil => simp
  | @cons before piece rest t all _ h ih =>
    rw [← List.append_assoc]
    cases h with
    | nil => simp
    | cons => simpa using ih

theorem cut (h : Tiling before cs all) :
    ∀ lexeme ∈ all, ∃ front piece rest, before ++ cs = front ++ piece ++ rest ∧
      Spells lexeme.token piece ∧ lexeme.place = .counted front ∧
      lexeme.stop = String.utf8Len (front ++ piece) := by
  induction h with
  | nil => simp
  | @cons before piece rest t all hspells h ih =>
    refine List.forall_mem_cons.2 ⟨⟨before, piece, rest, ?_, hspells, rfl, rfl⟩, ?_⟩
    · rw [List.append_assoc]
    · rwa [List.append_assoc] at ih

end Tiling

-- The lexemes part the text: they follow one another from its start to its end, and each has
-- characters of its own, that spell its token, and the place that counting up to them gives.
structure Tiles (all : List Lexeme) (text : List Char) : Prop where
  nonempty : text ≠ [] → all ≠ []
  first : ∀ lexeme ∈ all.head?, lexeme.place.offset = 0
  adjacent : all.IsChain (·.stop = ·.place.offset)
  last : ∀ lexeme ∈ all.getLast?, lexeme.stop = String.utf8Len text
  cut : ∀ lexeme ∈ all, ∃ before piece after, text = before ++ piece ++ after ∧ piece ≠ [] ∧
    Spells lexeme.token piece ∧ lexeme.place = .counted before ∧
    lexeme.stop = String.utf8Len (before ++ piece)

theorem Tiling.tiles (h : Tiling [] cs all) : Tiles all cs where
  nonempty hne := by
    cases h with
    | nil => exact absurd rfl hne
    | cons => exact List.cons_ne_nil _ _
  first lexeme hlexeme := by
    rw [h.head lexeme hlexeme]
    rfl
  adjacent := h.adjacent
  last := h.last
  cut lexeme hlexeme := by
    obtain ⟨before, piece, after, hcs, hspells, hplace, hstop⟩ := h.cut lexeme hlexeme
    exact ⟨before, piece, after, hcs, hspells.ne_nil, hspells, hplace, hstop⟩

-- The lexer with a bound on its tokens; it gives nothing when the bound is too small.
def lexemesWithin : Nat → Place → List Char → Option (Except LexError (List Lexeme))
  | _, _, [] => some (.ok [])
  | 0, _, _ :: _ => none
  | n + 1, place, c :: cs =>
    match scan (c :: cs) with
    | none => some (.error ⟨Text.firstChars fragmentLength (c :: cs), place⟩)
    | some (t, rest) =>
      let after := placeAfter place (c :: cs) rest
      (lexemesWithin n after rest).map (·.map (⟨t, place, after.offset⟩ :: ·))

-- Every token takes a character at least, so there is no need for more tokens than characters.
theorem lexemesWithin_of_length_le {n : Nat} (h : cs.length ≤ n) :
    lexemesWithin n place cs = some (lexemesFrom place cs) := by
  induction n generalizing place cs with
  | zero =>
    obtain rfl := List.length_eq_zero_iff.1 (Nat.le_zero.1 h)
    rw [lexemesWithin, lexemesFrom]
  | succ n ih =>
    cases cs with
    | nil => rw [lexemesWithin, lexemesFrom]
    | cons c cs =>
      rw [lexemesWithin]
      cases hscan : scan (c :: cs) with
      | none => rw [lexemesFrom_of_scan_eq_none (List.cons_ne_nil c cs) hscan]
      | some scanned =>
        obtain ⟨t, rest⟩ := scanned
        have hlt := scan_lt hscan
        simp only
        rw [ih (by omega), lexemesFrom_of_scan hscan]
        rfl

-- The lexemes part the text, or its front up to where no written token starts; there are no more of
-- them than characters.
theorem lexemes_tile (text : String) :
    (match lexemes text with
      | .ok all => Tiles all text.toList
      | .error e => ∃ before after all, text.toList = before ++ after ∧ after ≠ [] ∧
        Tiles all before ∧ e.place = .counted before ∧
        ∀ t piece, piece <+: after → ¬Spells t piece) ∧
      lexemesWithin text.length .start text.toList = some (lexemes text) := by
  refine ⟨?_, lexemesWithin_of_length_le (String.length_toList ▸ Nat.le_refl _)⟩
  cases h : lexemes text with
  | ok all => exact (tiling_of_lexemes h).tiles
  | error e =>
    obtain ⟨before, after, all, htext, hafter, hnone, htiling, rfl⟩ := tiling_of_lexError h
    exact ⟨before, after, all, htext, hafter, htiling.tiles, rfl, scan_eq_none_iff.1 hnone⟩

end Rulebook.Syntax
