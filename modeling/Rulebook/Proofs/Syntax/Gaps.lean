import Rulebook.Proofs.Syntax.Lookahead

/-!
Blanks between the pieces of a text. They make no difference to what is read, as long as they do not
bring a line comment about: two slashes are none where a carriage return stands alone behind them,
and a line feed put in before it makes them one.
-/

namespace Rulebook.Syntax

-- Each piece with the gap before it, and the last gap.
def spread (gaps : Nat → List Char) : List (List Char) → List Char
  | [] => gaps 0
  | piece :: pieces => gaps 0 ++ (piece ++ spread (fun i => gaps (i + 1)) pieces)

-- No slash stands right behind the sign of a division.
def SlashesApart (pieces : List (List Char)) : Prop :=
  pieces.IsChain fun piece next => piece = ['/'] → next.head? ≠ some '/'

instance (pieces : List (List Char)) : Decidable (SlashesApart pieces) :=
  inferInstanceAs (Decidable (pieces.IsChain _))

variable {blanks cs ds rest : List Char} {c : Char} {gaps : Nat → List Char}
  {pieces : List (List Char)} {cut : List Piece}

-- The same characters, with some of the blanks between them.
inductive Blanked (blanks : List Char) : List Char → List Char → Prop
  | nil : Blanked blanks [] []
  | keep (c : Char) {cs ds : List Char} (h : Blanked blanks cs ds) :
    Blanked blanks (c :: cs) (c :: ds)
  | insert {b : Char} (hb : b ∈ blanks) {cs ds : List Char} (h : Blanked blanks cs ds) :
    Blanked blanks cs (b :: ds)

namespace Blanked

theorem insertAll {gap : List Char} (hgap : ∀ b ∈ gap, b ∈ blanks) (h : Blanked blanks cs ds) :
    Blanked blanks cs (gap ++ ds) := by
  induction gap with
  | nil => exact h
  | cons b gap ih =>
    obtain ⟨hb, hgap⟩ := List.forall_mem_cons.1 hgap
    exact .insert hb (ih hgap)

theorem keepAll (h : Blanked blanks cs ds) (piece : List Char) :
    Blanked blanks (piece ++ cs) (piece ++ ds) := by
  induction piece with
  | nil => exact h
  | cons c piece ih => exact .keep c ih

theorem exists_cons (h : Blanked blanks cs (c :: ds)) (hc : c ∉ blanks) :
    ∃ cs', cs = c :: cs' ∧ Blanked blanks cs' ds := by
  cases h with
  | keep _ h => exact ⟨_, rfl, h⟩
  | insert hb => exact absurd hb hc

theorem head_ne (h : Blanked blanks cs ds) (hc : c ∉ blanks) (hcs : cs.head? ≠ some c) :
    ds.head? ≠ some c := by
  intro hds
  obtain ⟨ds, rfl⟩ := List.head?_eq_some_iff.1 hds
  obtain ⟨cs, rfl, -⟩ := h.exists_cons hc
  exact hcs rfl

-- No two characters come together that were apart.
theorem infix_of_infix {d : Char} (h : Blanked blanks cs ds) (hc : c ∉ blanks) (hd : d ∉ blanks)
    (hds : [c, d] <:+: ds) : [c, d] <:+: cs := by
  induction h with
  | nil => exact hds
  | @keep e cs ds h ih =>
    obtain hprefix | hinfix := List.infix_cons_iff.1 hds
    · obtain ⟨rfl, after, rfl⟩ := List.cons_prefix_cons.1 hprefix
      obtain ⟨cs, rfl, -⟩ := h.exists_cons hd
      exact List.IsPrefix.isInfix ⟨cs, rfl⟩
    · exact (ih hinfix).trans (List.suffix_cons ..).isInfix
  | @insert b hb cs ds h ih =>
    obtain hprefix | hinfix := List.infix_cons_iff.1 hds
    · exact absurd ((List.cons_prefix_cons.1 hprefix).1 ▸ hb) hc
    · exact ih hinfix

end Blanked

theorem blanked_spread (hgaps : ∀ i, ∀ c ∈ gaps i, c ∈ blanks) (pieces : List (List Char)) :
    Blanked blanks pieces.flatten (spread gaps pieces) := by
  induction pieces generalizing gaps with
  | nil =>
    rw [List.flatten_nil, spread, ← List.append_nil (gaps 0)]
    exact Blanked.nil.insertAll (hgaps 0)
  | cons piece pieces ih =>
    rw [List.flatten_cons, spread]
    exact ((ih fun i => hgaps (i + 1)).keepAll piece).insertAll (hgaps 0)

section

variable (hblanks : ∀ b ∈ blanks, b ∈ [' ', '\t', '\n'])

include hblanks

theorem not_mem_blanks (h : c ∉ [' ', '\t', '\n']) : c ∉ blanks :=
  mt (hblanks c) h

theorem Blanked.ahead (h : Blanked blanks cs ds) : Ahead cs ds := by
  cases h with
  | nil => exact .apart nofun
  | insert hb =>
    refine .apart fun c hc => ?_
    cases hc
    have hseparators : ∀ c ∈ [' ', '\t', '\n'], c ∈ separators := by simp [separators]
    exact hseparators _ (hblanks _ hb)
  | @keep c cs ds h =>
    refine .same fun d hd hdigit => ?_
    obtain ⟨ds, rfl⟩ := List.head?_eq_some_iff.1 hd
    have hd : d ∉ [' ', '\t', '\n'] := by
      have hblank : [' ', '\t', '\n'].all (!·.isDigit) = true := by decide
      exact fun hmem => absurd (List.all_eq_true.1 hblank d hmem) (by simp [hdigit])
    obtain ⟨cs, rfl, -⟩ := h.exists_cons (not_mem_blanks hblanks hd)
    rfl

theorem LoneReturn.blanked (h : LoneReturn cs) (hline : '\n' ∉ blanks)
    (hcs : Blanked blanks cs ds) : LoneReturn ds := by
  induction hcs with
  | nil => exact h
  | @keep c cs ds hcs ih =>
    obtain ⟨after, hdrop, hafter⟩ := h
    rw [List.dropWhile_cons] at hdrop
    split at hdrop
    case isTrue hc =>
      obtain ⟨after', hdrop', hafter'⟩ := ih ⟨after, hdrop, hafter⟩
      exact ⟨after', by rw [List.dropWhile_cons, if_pos hc, hdrop'], hafter'⟩
    case isFalse hc =>
      cases hdrop
      exact ⟨ds, List.dropWhile_cons_of_neg hc, hcs.head_ne hline hafter⟩
  | @insert b hb cs ds hcs ih =>
    obtain ⟨after, hdrop, hafter⟩ := ih h
    have hb' : (!isLineEnd b) = true := by
      have hne : b ≠ '\n' := fun heq => hline (heq ▸ hb)
      have hmem := hblanks b hb
      simp only [List.mem_cons, hne, List.not_mem_nil, or_false] at hmem
      obtain rfl | rfl := hmem <;> decide
    exact ⟨after, by rw [List.dropWhile_cons, if_pos hb', hdrop], hafter⟩

theorem scan_divide_of_blanked (h : scan ('/' :: cs) = some (.operator .divide, cs))
    (hcs : Blanked blanks cs ds) (hslash : '\n' ∉ blanks ∨ cs.head? ≠ some '/') :
    scan ('/' :: ds) = some (.operator .divide, ds) := by
  rw [scan_divide_iff] at h ⊢
  obtain ⟨hblock, hline⟩ := h
  refine ⟨?_, ?_⟩
  · rintro body' rfl
    obtain ⟨body, rfl, hbody⟩ := hcs.exists_cons (not_mem_blanks hblanks (by decide))
    refine mt (hbody.infix_of_infix ?_ ?_) (hblock body rfl) <;>
      exact not_mem_blanks hblanks (by decide)
  · rintro body' rfl
    obtain ⟨body, rfl, hbody⟩ := hcs.exists_cons (not_mem_blanks hblanks (by decide))
    have hfeed : '\n' ∉ blanks := hslash.resolve_right (not_not_intro rfl)
    exact (hline body rfl).blanked hblanks hfeed hbody

theorem isInlineSpace_or_of_mem (hc : c ∈ blanks) : isInlineSpace c = true ∨ c = '\n' := by
  have hmem := hblanks c hc
  simp only [List.mem_cons, List.not_mem_nil, or_false] at hmem
  obtain rfl | rfl | rfl := hmem <;> decide

theorem runsOut_append {gap : List Char} (hgap : ∀ b ∈ gap, b ∈ blanks) (h : EndsLine cs) :
    RunsOut (gap ++ cs) := by
  induction gap with
  | nil => exact ⟨[], cs, rfl, nofun, h⟩
  | cons b gap ih =>
    obtain ⟨hb, hgap⟩ := List.forall_mem_cons.1 hgap
    obtain ⟨spaces, after, heq, hspaces, hafter⟩ := ih hgap
    obtain hspace | rfl := isInlineSpace_or_of_mem hblanks hb
    · exact ⟨b :: spaces, after, congrArg (b :: ·) heq,
        List.forall_mem_cons.2 ⟨hspace, hspaces⟩, hafter⟩
    · exact ⟨[], _, rfl, nofun, .lineFeed (gap ++ cs)⟩

theorem Cut.runsOut (h : Cut rest cut) (hrest : EndsLine rest)
    (hgaps : ∀ i, ∀ c ∈ gaps i, c ∈ blanks) : RunsOut (spread gaps (cut.map (·.2))) := by
  cases hrest with
  | nil =>
    rw [h.eq_nil, List.map_nil, spread, ← List.append_nil (gaps 0)]
    exact runsOut_append hblanks (hgaps 0) .nil
  | lineFeed rest =>
    have hscan : scan ('\n' :: rest) = some (.newline, rest) := rfl
    obtain ⟨piece, cut, rfl, hpiece, -⟩ := h.exists_cons hscan
    obtain rfl : ['\n'] = piece := List.append_cancel_right hpiece
    exact runsOut_append hblanks (hgaps 0) (.lineFeed _)
  | carriageReturn rest =>
    have hscan : scan ('\r' :: '\n' :: rest) = some (.newline, rest) := rfl
    obtain ⟨piece, cut, rfl, hpiece, -⟩ := h.exists_cons hscan
    obtain rfl : ['\r', '\n'] = piece := List.append_cancel_right hpiece
    exact runsOut_append hblanks (hgaps 0) (.carriageReturn _)

-- The gaps between the pieces are skipped.
theorem Cut.lexes_spread (h : Cut cs cut) (hgaps : ∀ i, ∀ c ∈ gaps i, c ∈ blanks)
    (hslash : '\n' ∉ blanks ∨ SlashesApart (cut.map (·.2))) :
    Lexes (spread gaps (cut.map (·.2))) (Piece.significant cut) := by
  induction h generalizing gaps with
  | nil =>
    rw [List.map_nil, spread, ← List.append_nil (gaps 0)]
    exact (lexes_blanks fun c hc => isInlineSpace_or_of_mem hblanks (hgaps 0 c hc)).2 lexes_nil
  | @cons piece rest t cut hscan h ih =>
    have hgaps' : ∀ i, ∀ c ∈ gaps (i + 1), c ∈ blanks := fun i => hgaps (i + 1)
    have hblanked : Blanked blanks rest (spread (fun i => gaps (i + 1)) (cut.map (·.2))) := by
      rw [h.eq_flatten]
      exact blanked_spread hgaps' _
    rw [List.map_cons, spread,
      lexes_blanks fun c hc => isInlineSpace_or_of_mem hblanks (hgaps 0 c hc),
      Piece.significant_cons]
    refine lexes_append hscan (hblanked.ahead hblanks) ?_ ?_
      (ih hgaps' (hslash.imp_right List.IsChain.tail))
    · rintro rfl
      have hspells := (Cut.cons hscan h).spells _ List.mem_cons_self
      obtain rfl : piece = ['/'] := hspells.eq_of_operator
      refine scan_divide_of_blanked hblanks hscan hblanked (hslash.imp_right fun hapart => ?_)
      cases h with
      | nil => exact nofun
      | @cons next rest t cut hscan' h =>
        have hnext : next ≠ [] := ((Cut.cons hscan' h).spells _ List.mem_cons_self).ne_nil
        have hhead : (next ++ rest).head? = next.head? := List.head?_append_of_ne_nil _ hnext
        exact hhead ▸ (List.isChain_cons_cons.1 hapart).1 rfl
    · exact fun _ _ hends => h.runsOut hblanks hends hgaps'

end

-- Comments are pieces too, so that a gap comes before or behind one and never inside.
theorem lexes_spread {text : String} {ts : List Token} {gaps : Nat → List Char}
    (hgaps : ∀ i, ∀ c ∈ gaps i, c ∈ [' ', '\t', '\n'])
    (hslash : (∀ i, '\n' ∉ gaps i) ∨ SlashesApart (textPieces text)) (h : Lexes text.toList ts) :
    Lexes (spread gaps (textPieces text)) ts := by
  obtain ⟨cut, hcut, rfl⟩ := h
  rw [hcut.textPieces_eq] at hslash ⊢
  obtain hline | hapart := hslash
  · have hgaps' : ∀ i, ∀ c ∈ gaps i, c ∈ [' ', '\t'] := by
      intro i c hc
      have hmem := hgaps i c hc
      have hne : c ≠ '\n' := fun heq => hline i (heq ▸ hc)
      simpa [hne] using hmem
    exact hcut.lexes_spread (by simp) hgaps' (.inl (by decide))
  · exact hcut.lexes_spread (fun _ => id) hgaps (.inr hapart)

theorem parseWith_spread {α : Type} {grammar : List Token → Except Failure α} {value : α}
    {text : String} {gaps : Nat → List Char}
    (hgaps : ∀ i, ∀ c ∈ gaps i, c ∈ [' ', '\t', '\n'])
    (hslash : (∀ i, '\n' ∉ gaps i) ∨ SlashesApart (textPieces text))
    (h : parseWith grammar text = .ok value) :
    parseWith grammar (String.ofList (spread gaps (textPieces text))) = .ok value := by
  obtain ⟨ts, hlexes, hts⟩ := parseWith_eq_ok_iff.1 h
  refine parseWith_eq_ok_iff.2 ⟨ts, ?_, hts⟩
  rw [String.toList_ofList]
  exact lexes_spread hgaps hslash hlexes

-- Without the condition a line feed in a gap can turn the sign of a division into a line comment.
theorem read_spread (text : String) (gaps : Nat → List Char)
    (hgaps : ∀ i, ∀ c ∈ gaps i, c ∈ [' ', '\t', '\n'])
    (hslash : (∀ i, '\n' ∉ gaps i) ∨ SlashesApart (textPieces text)) :
    (∀ e, parseExpression text = .ok e →
      parseExpression (String.ofList (spread gaps (textPieces text))) = .ok e) ∧
    ∀ c, parseCell text = .ok c →
      parseCell (String.ofList (spread gaps (textPieces text))) = .ok c :=
  ⟨fun _ => parseWith_spread hgaps hslash, fun _ => parseWith_spread hgaps hslash⟩

theorem read_spread_membership :
    ∃ e, parseExpression "x/2 in[1..3]// half" = .ok e ∧
      parseExpression " \nx\t/ \n2\t  \nin\t[ \n1\t.. \n3\t] \n// half\t" = .ok e := by
  have hgaps : ∀ i : Nat, ∀ c ∈ if i % 2 = 0 then [' ', '\n'] else ['\t'],
      c ∈ [' ', '\t', '\n'] := by
    intro i c hc
    split at hc <;> simp only [List.mem_cons, List.not_mem_nil, or_false] at hc ⊢ <;> tauto
  have hread : (parseExpression "x/2 in[1..3]// half").toOption.isSome = true := by decide +kernel
  have htext : String.ofList (spread (fun i => if i % 2 = 0 then [' ', '\n'] else ['\t'])
      (textPieces "x/2 in[1..3]// half")) =
      " \nx\t/ \n2\t  \nin\t[ \n1\t.. \n3\t] \n// half\t" := by
    decide +kernel
  cases h : parseExpression "x/2 in[1..3]// half" with
  | error e => rw [h] at hread; cases hread
  | ok e =>
    have hspread := (read_spread "x/2 in[1..3]// half" _ hgaps (.inr (by decide +kernel))).1 e h
    exact ⟨e, rfl, htext ▸ hspread⟩

-- A carriage return in a string keeps the two slashes from being a comment, until a line feed comes
-- before it.
example : (match parseExpression "1//**/2=\"\r\"", parseExpression "1//**/2\n=\"\r\"" with
    | .ok (.binary .equal (.binary ..) _), .ok (.binary .equal (.literal _) _) => true
    | _, _ => false) = true := by
  decide +kernel

end Rulebook.Syntax
