import Rulebook.Proofs.Syntax.CellForms
import Rulebook.Proofs.Syntax.Lookahead
import Rulebook.Proofs.Syntax.Phrases

/-!
Texts of calls. An expression is read in a call as it is by itself: what the lexer takes is not
changed by the comma or the parenthesis behind it, nor is what the grammar takes. A line comment at
the end of an argument would swallow them.
-/

namespace Rulebook.Syntax

def Token.isLineComment : Token → Bool
  | .lineComment _ => true
  | _ => false

-- What is written behind such a text belongs to its last comment.
def endsInComment (text : String) : Bool :=
  match lexemes text with
  | .ok all => all.getLast?.any (·.token.isLineComment)
  | .error _ => false

def callText (name : String) (arguments : List String) : String :=
  name ++ "(" ++ ",".intercalate arguments ++ ")"

variable {c : Char} {cs rest after : List Char} {t : Token} {ts us : List Token} {cut : List Piece}
  {e : Expr} {es : List Expr} {text name : String} {texts : List String}

-- A comma or a closing parenthesis comes next.
def Closes (cs : List Char) : Prop :=
  ∃ c others, cs = c :: others ∧ (c = ',' ∨ c = ')')

theorem Closes.ahead (h : Closes after) (rest : List Char) : Ahead rest (rest ++ after) := by
  obtain ⟨c, others, rfl, hc⟩ := h
  cases rest with
  | nil =>
    refine .apart fun d hd => ?_
    cases hd
    obtain rfl | rfl := hc <;> simp [separators]
  | cons d rest =>
    refine .same fun d hd hdigit => ?_
    cases rest with
    | nil =>
      cases hd
      obtain rfl | rfl := hc <;> cases hdigit
    | cons => exact hd

theorem LoneReturn.append (h : LoneReturn cs) (hafter : after.head? ≠ some '\n') :
    LoneReturn (cs ++ after) := by
  obtain ⟨others, hdrop, hothers⟩ := h
  refine ⟨others ++ after, ?_, ?_⟩
  · rw [List.dropWhile_append, hdrop]
    rfl
  · cases others with
    | nil => exact hafter
    | cons => exact hothers

-- The sign of a division stays one, unless a star behind it would open a comment.
theorem scan_divide_append (h : scan ('/' :: rest) = some (.operator .divide, rest))
    (hafter : Closes after) (hstar : rest.head? ≠ some '*') :
    scan ('/' :: (rest ++ after)) = some (.operator .divide, rest ++ after) := by
  rw [scan_divide_iff] at h ⊢
  obtain ⟨c, others, rfl, hc⟩ := hafter
  have hfeed : (c :: others).head? ≠ some '\n' := by
    obtain rfl | rfl := hc <;> simp
  cases rest with
  | nil => obtain rfl | rfl := hc <;> exact ⟨nofun, nofun⟩
  | cons d rest =>
    refine ⟨?_, ?_⟩
    · rintro body heq
      cases heq
      exact absurd rfl hstar
    · rintro body heq
      cases heq
      exact (h.2 rest rfl).append hfeed

theorem Steps.uncons (h : Steps (t :: ts) []) :
    (t = .operator .divide → StartsOperand ts) ∧ Steps ts [] := by
  cases h with
  | cons ht h => exact ⟨ht, h⟩

theorem Cut.head_ne_star (h : Cut rest cut) (hstarts : StartsOperand (Piece.significant cut)) :
    rest.head? ≠ some '*' := by
  intro hhead
  obtain ⟨others, rfl⟩ := List.head?_eq_some_iff.1 hhead
  have hstar : ∃ o rest, o ≠ .minus ∧ scan ('*' :: others) = some (.operator o, rest) := by
    by_cases hothers : others.head? = some '*'
    case pos =>
      obtain ⟨others, rfl⟩ := List.head?_eq_some_iff.1 hothers
      exact ⟨.power, others, nofun, rfl⟩
    case neg =>
      have hhalts : Halts (fun c => Operator.times.extension? == some c) others := by
        intro c hc
        refine beq_eq_false_iff_ne.2 fun heq => hothers ?_
        cases heq
        exact hc
      exact ⟨.times, others, nofun, scan_operator_of_halts (o := .times) nofun hhalts⟩
  obtain ⟨o, rest, ho, hscan⟩ := hstar
  obtain ⟨piece, cut, rfl, -, -⟩ := h.exists_cons hscan
  rw [Piece.significant_cons] at hstarts
  exact ho (hstarts o _ rfl)

-- What the lexer takes of a text it takes in front of a comma or a closing parenthesis too.
theorem Cut.lexes_append (h : Cut cs cut) (hafter : Closes after)
    (hlast : ∀ p ∈ cut.getLast?, p.1.isLineComment = false)
    (hsteps : Steps (Piece.significant cut) []) (hlexes : Lexes after us) :
    Lexes (cs ++ after) (Piece.significant cut ++ us) := by
  induction h with
  | nil => exact hlexes
  | @cons piece rest t cut hscan h ih =>
    rw [Piece.significant_cons] at hsteps
    have hcut : Steps (Piece.significant cut) [] := by
      split at hsteps
      · exact hsteps
      · exact hsteps.uncons.2
    have hlast' : ∀ p ∈ cut.getLast?, p.1.isLineComment = false :=
      fun p hp => hlast p (by rw [List.getLast?_cons, Option.mem_def.1 hp]; rfl)
    have htokens : Piece.significant ((t, piece) :: cut) ++ us =
        if t.isTrivia then Piece.significant cut ++ us else t :: (Piece.significant cut ++ us) := by
      rw [Piece.significant_cons]
      split <;> rfl
    rw [List.append_assoc, htokens]
    refine Syntax.lexes_append hscan (hafter.ahead rest) ?_ ?_ (ih hlast' hcut)
    · rintro rfl
      have hspells := (Cut.cons hscan h).spells _ List.mem_cons_self
      obtain rfl : piece = ['/'] := hspells.eq_of_operator
      exact scan_divide_append hscan hafter (h.head_ne_star (hsteps.uncons.1 rfl))
    · rintro content rfl hends
      have hrest : rest ≠ [] := by
        rintro rfl
        obtain rfl := h.eq_nil
        cases hlast _ rfl
      exact ⟨[], _, rfl, nofun, hends.append hrest after⟩

-- A text that an argument of a call can be.
structure Argument (text : String) (e : Expr) : Prop where
  reads : parseExpression text = .ok e
  ends : endsInComment text = false

theorem Argument.exists_lexes (h : Argument text e) : ∃ ts, completeExpression ts = .ok e ∧
    ∀ after us, Closes after → Lexes after us → Lexes (text.toList ++ after) (ts ++ us) := by
  obtain ⟨_, ⟨cut, hcut, rfl⟩, -, hread⟩ := parseWith_eq_ok_iff.1 h.reads
  refine ⟨_, hread, fun after us hafter hlexes => ?_⟩
  refine hcut.lexes_append hafter ?_ (steps_of_completeExpression hread) hlexes
  have hall : lexemes text = .ok (lexemesOf [] cut) := hcut.lexemesFrom_eq []
  have hends := h.ends
  rw [endsInComment, hall] at hends
  have hlast : cut.getLast?.any (·.1.isLineComment) = false := by
    have hmap := congrArg (·.getLast?.any Token.isLineComment) (map_token_lexemesOf [] cut)
    simp only [List.getLast?_map, Option.any_map] at hmap
    exact hmap.symm.trans hends
  intro p hp
  rwa [Option.mem_def.1 hp] at hlast

theorem intercalate_cons (sep piece : List Char) (pieces : List (List Char)) :
    sep.intercalate (piece :: pieces) = piece ++ pieces.flatMap (sep ++ ·) := by
  induction pieces generalizing piece with
  | nil => rw [List.intercalate_singleton, List.flatMap_nil, List.append_nil]
  | cons next pieces ih =>
    rw [List.intercalate_cons_cons, ih, List.flatMap_cons, List.append_assoc, List.append_assoc]

-- The arguments behind the first one, and the end of the call.
theorem exists_lexes_others (h : List.Forall₂ Argument texts es) (hafter : Lexes after us) :
    ∃ ts, Lexes ((texts.map String.toList).flatMap ([','] ++ ·) ++ ')' :: after)
        (ts ++ .delimiter .closeParen :: us) ∧
      (commaItems (ts ++ .delimiter .closeParen :: us)).Reads es (.delimiter .closeParen :: us) ∧
      Closes ((texts.map String.toList).flatMap ([','] ++ ·) ++ ')' :: after) ∧
      Stops .whole (ts ++ .delimiter .closeParen :: us) := by
  induction h with
  | nil =>
    refine ⟨[], hafter.cons rfl rfl, ?_, ⟨')', after, rfl, .inr rfl⟩, stops_of_joins_none rfl⟩
    rw [List.nil_append, commaItems.eq_2 _ fun _ heq => by cases heq]
    exact ⟨_, rfl⟩
  | @cons text e texts es hargument h ih =>
    obtain ⟨others, hothers, hreads, hcloses, hstops⟩ := ih
    obtain ⟨ts, hread, hlexes⟩ := hargument.exists_lexes
    have hitem : Lexes (',' :: (text.toList ++ ((texts.map String.toList).flatMap ([','] ++ ·) ++
        ')' :: after))) (.delimiter .comma :: (ts ++ (others ++ .delimiter .closeParen :: us))) :=
      (hlexes _ _ hcloses hothers).cons rfl rfl
    refine ⟨.delimiter .comma :: (ts ++ others), ?_, ?_, ⟨',', _, rfl, .inl rfl⟩,
      stops_of_joins_none rfl⟩
    · simpa using hitem
    · rw [List.cons_append, List.append_assoc, commaItems]
      exact (expression_reads_append hstops hread).andThen fun _ => hreads.map.widen

theorem exists_lexes_arguments (h : List.Forall₂ Argument texts es) (hafter : Lexes after us) :
    ∃ ts, Lexes ([','].intercalate (texts.map String.toList) ++ ')' :: after)
        (ts ++ .delimiter .closeParen :: us) ∧
      (arguments (ts ++ .delimiter .closeParen :: us)).Reads es (.delimiter .closeParen :: us) := by
  cases h with
  | nil =>
    exact ⟨[], hafter.cons rfl rfl, arguments_of_rejects expression_rejects_closeParen⟩
  | cons hargument h =>
    obtain ⟨others, hothers, hreads, hcloses, hstops⟩ := exists_lexes_others h hafter
    obtain ⟨ts, hread, hlexes⟩ := hargument.exists_lexes
    refine ⟨ts ++ others, ?_, ?_⟩
    · rw [List.map_cons, intercalate_cons, List.append_assoc, List.append_assoc]
      exact hlexes _ _ hcloses hothers
    · rw [List.append_assoc]
      exact arguments_of_reads (expression_reads_append hstops hread) hreads

theorem toList_callText : (callText name texts).toList =
    name.toList ++ '(' :: ([','].intercalate (texts.map String.toList) ++ [')']) := by
  simp [callText, String.toList_intercalate]

theorem isName_of_parse_call (h : parseExpression text = .ok (.call name es)) :
    isName name = true := by
  obtain ⟨ts, hlexes, -, hread⟩ := parseWith_eq_ok_iff.1 h
  have hlexical : Lexical ts := isLexical_of_textTokens (textTokens_eq_ok_iff.2 hlexes)
  have hcanonical := isCanonical_of_completeExpression hlexical hread
  rw [Expr.isCanonical, Bool.and_eq_true] at hcanonical
  exact hcanonical.1

theorem lexes_name (hname : isWord name.toList = true) (hrest : Halts continuesName rest)
    (h : Lexes rest ts) : Lexes (name.toList ++ rest) (nameToken name :: ts) := by
  cases hcs : name.toList with
  | nil => rw [hcs] at hname; cases hname
  | cons c cs =>
    obtain ⟨hstart, hcontinues⟩ := isWord_cons_iff.1 (hcs ▸ hname)
    have hscan := scan_name hstart hcontinues hrest
    rw [← hcs, String.ofList_toList] at hscan
    exact hcs ▸ h.cons hscan (isTrivia_nameToken name)

-- The text of a call is read as the call, if only the name is no keyword.
theorem parse_callText (hname : isWord name.toList = true) (hkeyword : Keyword.ofText? name = none)
    (h : List.Forall₂ Argument texts es) :
    parseExpression (callText name texts) = .ok (.call name es) := by
  obtain ⟨ts, harguments, hread⟩ := exists_lexes_arguments h lexes_nil
  have hopen : Lexes ('(' :: ([','].intercalate (texts.map String.toList) ++ [')']))
      (.delimiter .openParen :: (ts ++ [.delimiter .closeParen])) :=
    harguments.cons rfl rfl
  have htoken : nameToken name = .identifier name := by
    rw [nameToken, hkeyword]
  have hlexes : Lexes (callText name texts).toList
      (.identifier name :: .delimiter .openParen :: (ts ++ [.delimiter .closeParen])) := by
    rw [toList_callText, ← htoken]
    exact lexes_name hname (fun c hc => by cases hc; decide) hopen
  have hcall : (primary (.identifier name :: .delimiter .openParen ::
      (ts ++ [.delimiter .closeParen]))).Reads (.call name es) [] := by
    rw [primary]
    exact hread.andThen fun _ => delimiter_reads.andThen fun _ => ⟨_, rfl⟩
  have hwhole : (expression (.identifier name :: .delimiter .openParen ::
      (ts ++ [.delimiter .closeParen]))).Reads (.call name es) [] :=
    parse_of_rank_le (k := .whole) (j := .primary) (by decide) hcall trivial
  exact parseWith_eq_ok_iff.2 ⟨_, hlexes, List.cons_ne_nil _ _, complete_of_reads hwhole⟩

theorem parse_callText_iff (hname : isWord name.toList = true)
    (h : List.Forall₂ Argument texts es) :
    parseExpression (callText name texts) = .ok (.call name es) ↔ Keyword.ofText? name = none := by
  refine ⟨fun hparse => ?_, fun hkeyword => parse_callText hname hkeyword h⟩
  have hcall := isName_of_parse_call hparse
  rw [isName, Bool.or_eq_true, Bool.and_eq_true, beq_iff_eq] at hcall
  obtain rfl | ⟨-, hkeyword⟩ := hcall
  · exact absurd hname (by decide)
  · exact Option.isNone_iff_eq_none.1 hkeyword

end Rulebook.Syntax
