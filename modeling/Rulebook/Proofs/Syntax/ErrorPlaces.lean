import Rulebook.Proofs.Syntax.Tiling
import Rulebook.Syntax.ParseError

/-!
Where parse errors are. Whether the lexer or the grammar gives up, the error stands between two
characters of the text: it counts the ones before it and shows the ones behind it.
-/

namespace Rulebook.Syntax

variable {before after : List Char} {text : String} {all : List Lexeme} {e : ParseError}

namespace ParseError

theorem splitAt_append (before after : List Char) :
    splitAt (String.utf8Len before) (before ++ after) = (before, after) := by
  induction before with
  | nil => cases after <;> rfl
  | cons c before ih =>
    have hpos := c.utf8Size_pos
    rw [List.cons_append, splitAt, String.utf8Len_cons, if_neg (by omega), Nat.add_sub_cancel, ih]

theorem atOffset_eq (h : text.toList = before ++ after) (cause : ParseCause) :
    atOffset text (String.utf8Len before) cause =
      ⟨cause, Text.firstChars fragmentLength after, .counted before⟩ := by
  simp only [atOffset, h, splitAt_append, Place.advance_start]

end ParseError

-- Lexemes start between characters of the text, and a failure behind the last one is at its end.
theorem Tiling.exists_ofFailure_eq (h : Tiling [] text.toList all) (f : Failure) :
    ∃ before after cause, text.toList = before ++ after ∧
      ParseError.ofFailure text (significant all) f =
        ⟨cause, Text.firstChars fragmentLength after, .counted before⟩ := by
  simp only [ParseError.ofFailure]
  split
  case h_1 lexeme rest hdrop =>
    have hmem : lexeme ∈ all :=
      List.mem_of_mem_filter (List.mem_of_mem_drop (hdrop ▸ List.mem_cons_self))
    obtain ⟨before, piece, rest, htext, -, hplace, -⟩ := h.cut lexeme hmem
    rw [List.nil_append, List.append_assoc] at htext
    rw [hplace]
    exact ⟨before, piece ++ rest, _, htext, ParseError.atOffset_eq htext _⟩
  case h_2 =>
    have htext : text.toList = text.toList ++ [] := (List.append_nil _).symm
    rw [← String.utf8Len_toList]
    exact ⟨text.toList, [], _, htext, ParseError.atOffset_eq htext _⟩

theorem exists_eq_of_parseWith_error {α : Type} {grammar : List Token → Except Failure α}
    (h : parseWith grammar text = .error e) : ∃ before after cause, text.toList = before ++ after ∧
      e = ⟨cause, Text.firstChars fragmentLength after, .counted before⟩ := by
  rw [parseWith] at h
  cases hall : lexemes text with
  | error lexError =>
    rw [hall] at h
    cases h
    obtain ⟨before, after, -, htext, -, -, -, rfl⟩ := tiling_of_lexError hall
    exact ⟨before, after, _, htext, rfl⟩
  | ok all =>
    rw [hall] at h
    simp only at h
    split at h
    case isTrue =>
      cases h
      have htext : text.toList = [] ++ text.toList := rfl
      exact ⟨[], text.toList, _, htext, ParseError.atOffset_eq htext _⟩
    case isFalse =>
      cases hgrammar : grammar ((significant all).map (·.token)) with
      | ok => rw [hgrammar] at h; cases h
      | error f =>
        rw [hgrammar] at h
        cases h
        exact (tiling_of_lexemes hall).exists_ofFailure_eq f

theorem isValid_utf8Len (h : text.toList = before ++ after) :
    String.Pos.Raw.IsValid text ⟨String.utf8Len before⟩ := by
  refine String.Pos.Raw.isValid_iff_exists_append.2
    ⟨String.ofList before, String.ofList after, ?_, ?_⟩
  · rw [← String.ofList_append, ← h, String.ofList_toList]
  · rw [String.rawEndPos_ofList]

-- The lexer counts as it goes and the grammar's failures are counted anew, so the last part says that
-- both show the same for the same offset.
theorem error_place (h : parseExpression text = .error e ∨ parseCell text = .error e) :
    (∃ before after, text.toList = before ++ after ∧ e.place = .counted before ∧
      e.fragment = String.ofList (after.take 20)) ∧
    e.place.offset ≤ text.utf8ByteSize ∧ String.Pos.Raw.IsValid text ⟨e.place.offset⟩ ∧
    ∀ cause, ParseError.atOffset text e.place.offset cause = ⟨cause, e.fragment, e.place⟩ := by
  obtain ⟨before, after, cause, htext, rfl⟩ :=
    h.elim exists_eq_of_parseWith_error exists_eq_of_parseWith_error
  have hvalid := isValid_utf8Len htext
  exact ⟨⟨before, after, htext, rfl, rfl⟩, hvalid.le_rawEndPos, hvalid,
    ParseError.atOffset_eq htext⟩

-- A failure of the grammar and one of the lexer.
theorem error_place_operator :
    (∃ e, parseExpression "a\n  + * 2" = .error e ∧ e.place = ⟨6, 2, 5⟩ ∧ e.fragment = "* 2" ∧
      String.Pos.Raw.IsValid "a\n  + * 2" ⟨6⟩) ∧
    ∃ e, parseCell "é\n#" = .error e ∧ e.place = ⟨3, 2, 1⟩ ∧ e.fragment = "#" ∧
      String.Pos.Raw.IsValid "é\n#" ⟨3⟩ := by
  constructor
  · have hplace : (match parseExpression "a\n  + * 2" with
        | .error e => e.place == ⟨6, 2, 5⟩ && e.fragment == "* 2"
        | .ok _ => false) = true := by decide +kernel
    cases h : parseExpression "a\n  + * 2" with
    | ok => rw [h] at hplace; cases hplace
    | error e =>
      rw [h, Bool.and_eq_true, beq_iff_eq, beq_iff_eq] at hplace
      refine ⟨e, rfl, hplace.1, hplace.2, ?_⟩
      have hvalid := (error_place (.inl h)).2.2.1
      rwa [hplace.1] at hvalid
  · have hplace : (match parseCell "é\n#" with
        | .error e => e.place == ⟨3, 2, 1⟩ && e.fragment == "#"
        | .ok _ => false) = true := by decide +kernel
    cases h : parseCell "é\n#" with
    | ok => rw [h] at hplace; cases hplace
    | error e =>
      rw [h, Bool.and_eq_true, beq_iff_eq, beq_iff_eq] at hplace
      refine ⟨e, rfl, hplace.1, hplace.2, ?_⟩
      have hvalid := (error_place (.inr h)).2.2.1
      rwa [hplace.1] at hvalid

end Rulebook.Syntax
