import Rulebook.Proofs.Syntax.Pieces

/-!
How far a token looks ahead. Where it ends depends on two characters behind it at most, and there
are characters with which no token goes on. The sign of a division looks further, for it may open a
comment.
-/

namespace Rulebook.Syntax

variable {c : Char} {cs rest rest' : List Char} {t : Token} {piece : List Char} {p : Char → Bool}

-- No token but a blank or a comment goes on with these.
def separators : List Char := [' ', '\t', '\n', ',', ')']

-- A token that ends before `rest` finds nothing else in `rest'`.
inductive Ahead : List Char → List Char → Prop
  | apart {rest rest' : List Char} (h : ∀ c ∈ rest'.head?, c ∈ separators) : Ahead rest rest'
  | same {c : Char} {rest rest' : List Char}
    (h : ∀ d ∈ rest'.head?, d.isDigit = true → rest.head? = some d) :
    Ahead (c :: rest) (c :: rest')

theorem Halts.ahead (h : Halts p rest) (hahead : Ahead rest rest')
    (hp : separators.all (!p ·) = true) : Halts p rest' := by
  cases hahead with
  | apart hrest' => exact fun c hc => by simpa using List.all_eq_true.1 hp c (hrest' c hc)
  | same => exact h

theorem halts_of_dropWhile_eq (hcs : ∀ c ∈ cs, p c = true)
    (h : (cs ++ rest).dropWhile p = rest) : Halts p rest := by
  rw [List.dropWhile_append_of_pos hcs] at h
  cases rest with
  | nil => exact nofun
  | cons c rest =>
    rintro _ ⟨⟩
    have hlength := length_dropWhile_le p rest
    rw [List.dropWhile_cons] at h
    split at h
    · exact absurd (congrArg List.length h) (by rw [List.length_cons]; omega)
    · simp_all

theorem LacksFraction.ahead (h : LacksFraction rest) (hahead : Ahead rest rest') :
    LacksFraction rest' := by
  cases hahead with
  | apart hrest' =>
    unfold LacksFraction
    split
    · exact absurd (hrest' _ rfl) (by decide)
    · trivial
  | @same c rest rest' hnext =>
    unfold LacksFraction
    split
    · rename_i d after heq
      cases heq
      refine Bool.eq_false_iff.2 fun hd => ?_
      obtain ⟨others, rfl⟩ := List.head?_eq_some_iff.1 (hnext d rfl hd)
      exact absurd h (by simp [LacksFraction, hd])
    · trivial

theorem scan_of_digits (hne : cs ≠ []) (hcs : ∀ c ∈ cs, c.isDigit = true) :
    scan (cs ++ rest) = scanNumber (cs ++ rest) := by
  obtain ⟨c, cs, rfl⟩ := List.exists_cons_of_ne_nil hne
  exact scan_of_isDigit (hcs c List.mem_cons_self)

theorem ends_of_scanNumber_whole (hcs : ∀ c ∈ cs, c.isDigit = true)
    (h : scanNumber (cs ++ rest) = some (t, rest)) :
    Halts Char.isDigit rest ∧ LacksFraction rest := by
  simp only [scanNumber] at h
  split at h
  case isTrue => cases h
  case isFalse =>
    split at h
    case h_1 c after hafter =>
      split at h
      case isTrue =>
        -- The rest is shorter than what follows the digits.
        have hlt := length_dropWhile_le Char.isDigit (c :: after)
        have hle := length_dropWhile_le Char.isDigit rest
        rw [List.dropWhile_append_of_pos hcs] at hafter
        rw [hafter] at hle
        cases h
        simp only [List.length_cons] at hlt hle
        omega
      case isFalse hc =>
        have hdrop : (cs ++ rest).dropWhile Char.isDigit = rest :=
          (Prod.mk.inj (Option.some.inj h)).2
        rw [hdrop] at hafter
        refine ⟨halts_of_dropWhile_eq hcs hdrop, ?_⟩
        rw [hafter, LacksFraction]
        simpa using hc
    case h_2 hnone =>
      have hdrop : (cs ++ rest).dropWhile Char.isDigit = rest :=
        (Prod.mk.inj (Option.some.inj h)).2
      refine ⟨halts_of_dropWhile_eq hcs hdrop, ?_⟩
      unfold LacksFraction
      split
      · exact absurd hdrop (hnone _ _)
      · trivial

theorem ends_of_scanNumber_decimal {whole fraction : List Char} (hfraction : fraction ≠ [])
    (hdigits : ∀ c ∈ whole ++ fraction, c.isDigit = true)
    (h : scanNumber (whole ++ '.' :: (fraction ++ rest)) = some (t, rest)) :
    Halts Char.isDigit rest := by
  rw [List.forall_mem_append] at hdigits
  obtain ⟨c, cs, rfl⟩ := List.exists_cons_of_ne_nil hfraction
  have hpoint : Halts Char.isDigit ('.' :: c :: (cs ++ rest)) := fun d hd => by cases hd; rfl
  obtain ⟨htake, hdrop⟩ := hpoint.split hdigits.1
  simp only [scanNumber, List.cons_append, htake, hdrop] at h
  split at h
  · cases h
  · rw [if_pos (hdigits.2 c List.mem_cons_self)] at h
    exact halts_of_dropWhile_eq hdigits.2 (Prod.mk.inj (Option.some.inj h)).2

theorem ends_of_scanName (hc : startsName c = true) (hcs : ∀ c ∈ cs, continuesName c = true)
    (h : scanName (c :: (cs ++ rest)) = some (t, rest)) : Halts continuesName rest := by
  rw [scanName, if_pos hc] at h
  exact halts_of_dropWhile_eq hcs (Prod.mk.inj (Option.some.inj h)).2

-- The sign that makes a longer operator of it.
def Operator.extension? : Operator → Option Char
  | .dot => some '.'
  | .greater | .less => some '='
  | .times => some '*'
  | _ => none

theorem scan_short {d e : Char} {o : Operator} (hc : c ≠ e)
    (ho : (d, e, o) ∈ [('.', '.', .dot), ('>', '=', .greater), ('<', '=', .less),
      ('*', '*', .times)]) : scan (d :: c :: cs) = some (.operator o, c :: cs) := by
  simp only [List.mem_cons, Prod.mk.injEq, List.not_mem_nil, or_false] at ho
  obtain ⟨rfl, rfl, rfl⟩ | ⟨rfl, rfl, rfl⟩ | ⟨rfl, rfl, rfl⟩ | ⟨rfl, rfl, rfl⟩ := ho
  all_goals
    refine Option.or_none.trans ?_
    rw [scanOperator.eq_def]
    split <;> simp_all

theorem scan_operator_of_halts {o : Operator} (ho : o ≠ .divide)
    (h : Halts (fun c => o.extension? == some c) rest) :
    scan (o.text.toList ++ rest) = some (.operator o, rest) := by
  cases rest with
  | nil => cases o <;> rfl
  | cons c rest =>
    have hc : o.extension? ≠ some c := beq_eq_false_iff_ne.1 (h c rfl)
    cases o with
    | dot | greater | less | times =>
      exact scan_short (fun heq => hc (congrArg some heq.symm)) (by decide)
    | divide => cases ho rfl
    | _ => rfl

theorem halts_of_scan_operator {o : Operator}
    (h : scan (o.text.toList ++ rest) = some (.operator o, rest)) :
    Halts (fun c => o.extension? == some c) rest := by
  intro c hc
  obtain ⟨rest, rfl⟩ := List.head?_eq_some_iff.1 hc
  refine Bool.eq_false_iff.2 fun hextension => ?_
  cases o with
  | dot | greater | less | times =>
    obtain rfl := Option.some.inj (eq_of_beq hextension)
    cases h
  | _ => cases hextension

-- A token ends where it ended, whatever comes behind what it looks at.
theorem Spells.scan_ahead (hspells : Spells t piece) (ht : t.isTrivia = false)
    (hdivide : t ≠ .operator .divide) (h : scan (piece ++ rest) = some (t, rest))
    (hahead : Ahead rest rest') : scan (piece ++ rest') = some (t, rest') := by
  cases hspells with
  | whitespace | lineFeed | carriageReturn | blockComment | lineComment => cases ht
  | string hbody => exact scan_string hbody rest'
  | whole hne hdigits =>
    rw [scan_of_digits hne hdigits] at h ⊢
    obtain ⟨hhalts, hfraction⟩ := ends_of_scanNumber_whole hdigits h
    exact scanNumber_whole hne hdigits (hhalts.ahead hahead (by decide)) (hfraction.ahead hahead)
  | decimal hwhole hfraction hdigits =>
    have hdigits' := (List.forall_mem_append.1 hdigits).1
    rw [List.append_assoc, scan_of_digits hwhole hdigits'] at h ⊢
    have hhalts := ends_of_scanNumber_decimal hfraction hdigits h
    exact scanNumber_decimal hwhole hfraction hdigits (hhalts.ahead hahead (by decide))
  | operator o =>
    have ho : o ≠ .divide := fun ho => hdivide (congrArg _ ho)
    refine scan_operator_of_halts ho ((halts_of_scan_operator h).ahead hahead ?_)
    cases o <;> decide
  | delimiter d => cases d <;> rfl
  | inputName => rfl
  | name hstart hcs =>
    have hname := h
    rw [List.cons_append, scan_of_startsName hstart] at hname
    exact scan_name hstart hcs ((ends_of_scanName hstart hcs hname).ahead hahead (by decide))

-- Comments.

theorem untilCommentEnd_append {content : List Char} (h : ¬['*', '/'] <:+: content) :
    untilCommentEnd (content ++ '*' :: '/' :: rest) = some (content, rest) := by
  induction content with
  | nil => rfl
  | cons c content ih =>
    rw [List.infix_cons_iff, not_or] at h
    rw [List.cons_append, untilCommentEnd, ih h.2]
    · rfl
    · rintro after rfl hafter
      cases content with
      | nil => cases hafter
      | cons d content =>
        cases hafter
        exact h.1 ⟨content, rfl⟩

theorem untilCommentEnd_eq_none_iff : untilCommentEnd cs = none ↔ ¬['*', '/'] <:+: cs := by
  induction cs using untilCommentEnd.induct with
  | case1 after =>
    refine iff_of_false (fun h => ?_) (not_not_intro ?_)
    · cases h
    · exact List.IsPrefix.isInfix ⟨after, rfl⟩
  | case2 c cs hne ih =>
    rw [untilCommentEnd, Option.map_eq_none_iff, ih, List.infix_cons_iff, not_or, iff_and_self]
    · rintro - hprefix
      obtain ⟨hc, after, rfl⟩ := List.cons_prefix_cons.1 hprefix
      exact hne after hc.symm rfl
    · exact hne
  | case3 => simp [untilCommentEnd]

theorem scan_blockComment {content : List Char} (h : ¬['*', '/'] <:+: content) :
    scan ('/' :: '*' :: (content ++ ['*', '/']) ++ rest) =
      some (.blockComment (commentContent content), rest) := by
  have hcomment : scanComment ('/' :: '*' :: (content ++ '*' :: '/' :: rest)) =
      some (.blockComment (commentContent content), rest) := by
    rw [scanComment, untilCommentEnd_append h]
    rfl
  rw [List.cons_append, List.cons_append, List.append_assoc, List.cons_append,
    List.singleton_append]
  exact (congrArg (Option.or · _) hcomment :)

-- Where a line comment can end.
inductive EndsLine : List Char → Prop
  | nil : EndsLine []
  | lineFeed (rest : List Char) : EndsLine ('\n' :: rest)
  | carriageReturn (rest : List Char) : EndsLine ('\r' :: '\n' :: rest)

theorem EndsLine.append (h : EndsLine cs) (hne : cs ≠ []) (rest : List Char) :
    EndsLine (cs ++ rest) := by
  cases h with
  | nil => exact absurd rfl hne
  | lineFeed | carriageReturn => constructor

theorem scan_lineComment (hcs : ∀ c ∈ cs, isLineEnd c = false) (h : EndsLine rest) :
    scan ('/' :: '/' :: cs ++ rest) = some (.lineComment (commentContent cs), rest) := by
  have hhalts : Halts (!isLineEnd ·) rest := by
    cases h <;> simp [Halts, isLineEnd]
  obtain ⟨htake, hdrop⟩ := hhalts.split fun c hc => by rw [hcs c hc]; rfl
  have hcomment : scanComment ('/' :: '/' :: (cs ++ rest)) =
      some (.lineComment (commentContent cs), rest) := by
    simp only [scanComment, htake, hdrop]
    cases h <;> rfl
  exact congrArg (Option.or · _) hcomment

theorem endsLine_of_scanComment (hcs : ∀ c ∈ cs, isLineEnd c = false)
    (h : scanComment ('/' :: '/' :: (cs ++ rest)) = some (t, rest)) : EndsLine rest := by
  have hplain : ∀ c ∈ cs, (!isLineEnd c) = true := fun c hc => by rw [hcs c hc]; rfl
  simp only [scanComment] at h
  split at h
  case h_1 hdrop =>
    rw [hdrop] at h
    cases h
    constructor
  case h_2 => cases h
  case h_3 _ hreturn =>
    have hdrop : (cs ++ rest).dropWhile (!isLineEnd ·) = rest :=
      (Prod.mk.inj (Option.some.inj h)).2
    have hhalts := halts_of_dropWhile_eq hplain hdrop
    cases rest with
    | nil => constructor
    | cons c rest =>
      have hend : isLineEnd c = true := by simpa using hhalts c rfl
      have hc : c = '\n' ∨ c = '\r' := by
        rwa [isLineEnd, Bool.or_eq_true, beq_iff_eq, beq_iff_eq] at hend
      obtain rfl | rfl := hc
      · constructor
      · exact absurd hdrop (hreturn rest)

theorem endsLine_of_scan {content : String} (hcs : ∀ c ∈ cs, isLineEnd c = false)
    (h : scan ('/' :: '/' :: cs ++ rest) = some (.lineComment content, rest)) : EndsLine rest := by
  have hslash : scan ('/' :: '/' :: (cs ++ rest)) = (scanComment ('/' :: '/' :: (cs ++ rest))).or
      (some (.operator .divide, '/' :: (cs ++ rest))) := rfl
  rw [List.cons_append, List.cons_append, hslash, Option.or_eq_some_iff] at h
  obtain h | ⟨-, h⟩ := h
  · exact endsLine_of_scanComment hcs h
  · cases h

-- A carriage return that stands alone comes before any other line end.
def LoneReturn (cs : List Char) : Prop :=
  ∃ after, cs.dropWhile (!isLineEnd ·) = '\r' :: after ∧ after.head? ≠ some '\n'

theorem scanComment_slashes_eq_none_iff :
    scanComment ('/' :: '/' :: cs) = none ↔ LoneReturn cs := by
  simp only [scanComment, LoneReturn]
  split
  case h_1 hdrop => simp [hdrop]
  case h_2 after hline hdrop =>
    refine iff_of_true rfl ⟨after, hdrop, fun hafter => ?_⟩
    obtain ⟨others, rfl⟩ := List.head?_eq_some_iff.1 hafter
    exact hline others rfl
  case h_3 _ hreturn =>
    refine iff_of_false nofun ?_
    rintro ⟨after, hdrop, -⟩
    exact hreturn after hdrop

theorem isTrivia_of_scanComment (h : scanComment cs = some (t, rest)) : t.isTrivia = true := by
  rw [scanComment.eq_def] at h
  split at h
  · obtain ⟨_, _, heq⟩ := Option.map_eq_some_iff.1 h
    cases heq
    rfl
  · simp only at h
    split at h <;> cases h <;> rfl
  · cases h

-- What stands behind the sign of a division opens no comment that is closed.
theorem scan_divide_iff : scan ('/' :: rest) = some (.operator .divide, rest) ↔
    (∀ body, rest = '*' :: body → ¬['*', '/'] <:+: body) ∧
      ∀ body, rest = '/' :: body → LoneReturn body := by
  have hscan : scan ('/' :: rest) = some (.operator .divide, rest) ↔
      scanComment ('/' :: rest) = none := by
    have hslash : scan ('/' :: rest) =
        (scanComment ('/' :: rest)).or (some (.operator .divide, rest)) := rfl
    rw [hslash]
    cases hcomment : scanComment ('/' :: rest) with
    | none => exact iff_of_true rfl rfl
    | some scanned =>
      refine iff_of_false (fun h => ?_) nofun
      cases h
      cases isTrivia_of_scanComment hcomment
  rw [hscan]
  cases rest with
  | nil => exact iff_of_true rfl ⟨nofun, nofun⟩
  | cons c body =>
    by_cases hstar : c = '*'
    case pos =>
      subst hstar
      rw [scanComment, Option.map_eq_none_iff, untilCommentEnd_eq_none_iff]
      simp
    case neg =>
      by_cases hslash : c = '/'
      case pos =>
        subst hslash
        rw [scanComment_slashes_eq_none_iff]
        simp
      case neg =>
        refine iff_of_true ?_ (by simp [hstar, hslash])
        rw [scanComment.eq_def]
        split <;> simp_all

theorem isTrivia_nameToken (name : String) : (nameToken name).isTrivia = false := by
  rw [nameToken]
  split <;> rfl

-- What follows a line comment goes on with blanks of the same line at most.
def RunsOut (cs : List Char) : Prop :=
  ∃ blanks after, cs = blanks ++ after ∧ (∀ c ∈ blanks, isInlineSpace c = true) ∧ EndsLine after

theorem not_isLineEnd_of_isInlineSpace (h : isInlineSpace c = true) : isLineEnd c = false := by
  simp only [isInlineSpace, Bool.and_eq_true, bne_iff_ne] at h
  simp [isLineEnd, h.1.2, h.2]

theorem lexes_lineComment {ts : List Token} (hcs : ∀ c ∈ cs, isLineEnd c = false)
    (hrest : RunsOut rest) (h : Lexes rest ts) : Lexes ('/' :: '/' :: cs ++ rest) ts := by
  obtain ⟨blanks, after, rfl, hblanks, hafter⟩ := hrest
  have hline : ∀ c ∈ cs ++ blanks, isLineEnd c = false :=
    List.forall_mem_append.2 ⟨hcs, fun c hc => not_isLineEnd_of_isInlineSpace (hblanks c hc)⟩
  have hscan := scan_lineComment hline hafter
  rw [List.cons_append, List.cons_append, List.append_assoc] at hscan
  exact (lexes_iff_of_isTrivia hscan rfl).2 ((lexes_inlineSpaces hblanks).1 h)

theorem Spells.eq_of_operator {o : Operator} (h : Spells (.operator o) piece) :
    piece = o.text.toList := by
  generalize ht : Token.operator o = t at h
  cases h with
  | operator => cases ht; rfl
  | name =>
    rw [nameToken] at ht
    split at ht <;> cases ht
  | _ => cases ht

-- One piece more, in front of other characters than before.
theorem lexes_append {ts : List Token} (hscan : scan (piece ++ rest) = some (t, rest))
    (hahead : Ahead rest rest')
    (hdivide : t = .operator .divide → scan ('/' :: rest') = some (.operator .divide, rest'))
    (hcomment : ∀ content, t = .lineComment content → EndsLine rest → RunsOut rest')
    (h : Lexes rest' ts) : Lexes (piece ++ rest') (if t.isTrivia then ts else t :: ts) := by
  obtain ⟨piece', hcs, hspells⟩ := takes_of_scan hscan
  obtain rfl := List.append_cancel_right hcs
  by_cases hdiv : t = .operator .divide
  case pos =>
    subst hdiv
    obtain rfl := hspells.eq_of_operator
    exact h.cons (hdivide rfl) rfl
  case neg =>
    by_cases ht : t.isTrivia = false
    case pos =>
      rw [ht]
      exact h.cons (hspells.scan_ahead ht hdiv hscan hahead) ht
    case neg =>
      cases hspells with
      | whitespace _ hspaces => exact (lexes_inlineSpaces hspaces).2 h
      | lineFeed => exact (lexes_iff_of_isTrivia rfl rfl).2 h
      | carriageReturn => exact (lexes_iff_of_isTrivia rfl rfl).2 h
      | blockComment hcontent => exact (lexes_iff_of_isTrivia (scan_blockComment hcontent) rfl).2 h
      | lineComment hline =>
        exact lexes_lineComment hline (hcomment _ rfl (endsLine_of_scan hline hscan)) h
      | string | whole | decimal | operator | delimiter | inputName => cases ht rfl
      | name => exact absurd (isTrivia_nameToken _) ht

end Rulebook.Syntax
